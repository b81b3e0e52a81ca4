import SchemaQuery.Proofs.Json.Decoded
import SchemaQuery.Proofs.Table.Writes

/-!
# Documents as they are spelled

Tokens spell a document, and the reader takes those rows of tokens that spell one, and no others. In
a document as it is spelled, an object may have a key more than once. When it is read the key stands
where it was spelled first, with the value that was spelled last.
-/

namespace SchemaQuery

namespace Json

open JsonToken

mutual

/-- The document that is read for one that was spelled. -/
def settled : Json → Json
  | null => null
  | bool b => bool b
  | int n => int n
  | float x => float x
  | string t => string t
  | array items => array (settledItems items)
  | object members => record (settledMembers members)

def settledItems : List Json → List Json
  | [] => []
  | v :: items => v.settled :: settledItems items

def settledMembers : List (Text × Json) → List (Text × Json)
  | [] => []
  | (key, v) :: members => (key, v.settled) :: settledMembers members

end

theorem settledItems_eq_map (items : List Json) : settledItems items = items.map settled := by
  induction items with
  | nil => rfl
  | cons v items ih => rw [settledItems, ih, List.map_cons]

theorem settledMembers_eq_map (members : Entries Json) :
    settledMembers members = members.map fun m => (m.1, m.2.settled) := by
  induction members with
  | nil => rfl
  | cons m members ih => rw [settledMembers, ih, List.map_cons]

@[simp] theorem settled_array (items : List Json) :
    (array items).settled = array (items.map settled) := by
  rw [settled, settledItems_eq_map]

@[simp] theorem settled_object (members : Entries Json) :
    (object members).settled = record (members.map fun m => (m.1, m.2.settled)) := by
  rw [settled, settledMembers_eq_map]

/-- Nothing changes where no key is repeated. -/
theorem IsDecoded.settled_eq {v : Json} (h : v.IsDecoded) : v.settled = v := by
  induction h with
  | null | bool | int | float | string => rfl
  | @array items _ ih =>
    have hitems : items.map settled = items :=
      (List.map_congr_left ih).trans (List.map_id items)
    rw [settled_array, hitems]
  | @object entries hnodup _ ih =>
    have hentry : ∀ e ∈ entries, (e.1, e.2.settled) = e := by
      intro e he
      rw [ih e he]
    have hentries : entries.map (fun e => (e.1, e.2.settled)) = entries :=
      (List.map_congr_left hentry).trans (List.map_id entries)
    rw [settled_object, hentries, record, Entries.ofList_of_nodup hnodup]

def itemTokens (items : List (List JsonToken × Json)) : List JsonToken :=
  items.flatMap fun i => i.1 ++ [comma]

def memberTokens (members : List (Text × List JsonToken × Json)) : List JsonToken :=
  members.flatMap fun m => JsonToken.string m.1 :: colon :: (m.2.1 ++ [comma])

def memberEntries (members : List (Text × List JsonToken × Json)) : Entries Json :=
  members.map fun m => (m.1, m.2.2)

/-- Tokens spell a document, whose objects have their members as they are spelled. -/
inductive Spells : List JsonToken → Json → Prop
  | string (t : Text) : Spells [.string t] (string t)
  | literal {v : Json} : v.IsDecoded → Spells [.literal v] v
  | emptyArray : Spells [openArray, closeArray] (array [])
  | array {items : List (List JsonToken × Json)} {last : List JsonToken} {v : Json} :
    (∀ i ∈ items, Spells i.1 i.2) → Spells last v →
    Spells (openArray :: (itemTokens items ++ (last ++ [closeArray])))
      (array (items.map Prod.snd ++ [v]))
  | emptyObject : Spells [openObject, closeObject] (object [])
  | object {members : List (Text × List JsonToken × Json)} {key : Text} {last : List JsonToken}
    {v : Json} : (∀ m ∈ members, Spells m.2.1 m.2.2) → Spells last v →
    Spells (openObject :: (memberTokens members ++
        (.string key :: colon :: (last ++ [closeObject]))))
      (object (memberEntries members ++ [(key, v)]))

/-! ### What is spelled is read -/

/-- Tokens lead the reader from here to there. -/
def Leads (tokens : List JsonToken) (r r' : Reading) : Prop := tokens.foldlM readToken r = .ok r'

theorem Leads.cons {token : JsonToken} {tokens : List JsonToken} {r r' r'' : Reading}
    (htoken : readToken r token = .ok r') (h : Leads tokens r' r'') :
    Leads (token :: tokens) r r'' := by
  rw [Leads, List.foldlM_cons, htoken]
  exact h

theorem Leads.append {before after : List JsonToken} {r r' r'' : Reading}
    (hbefore : Leads before r r') (hafter : Leads after r' r'') :
    Leads (before ++ after) r r'' := by
  rw [Leads, List.foldlM_append, hbefore]
  exact hafter

theorem leads_singleton {token : JsonToken} {r r' : Reading} (h : readToken r token = .ok r') :
    Leads [token] r r' :=
  .cons h rfl

/-- Wherever a value is awaited, the tokens are read as this one. -/
def IsReadAs (tokens : List JsonToken) (v : Json) : Prop :=
  ∀ (r : Reading) (stack : List Frame), AwaitsValue r stack → Leads tokens r (.after v stack)

theorem leads_itemTokens {items : List (List JsonToken × Json)} {r : Reading}
    {stack : List Frame} {done : List Json} (h : ∀ i ∈ items, IsReadAs i.1 i.2.settled)
    (hr : AwaitsValue r (.array done :: stack)) :
    ∃ r', AwaitsValue r' (.array ((items.map fun i => i.2.settled).reverse ++ done) :: stack) ∧
      Leads (itemTokens items) r r' := by
  induction items generalizing r done with
  | nil => exact ⟨r, hr, rfl⟩
  | cons i items ih =>
    have hitem := h i List.mem_cons_self r _ hr
    have hcomma : readToken (.after i.2.settled (.array done :: stack)) comma =
        .ok (.value (.array (i.2.settled :: done) :: stack)) := rfl
    obtain ⟨r', hr', hitems⟩ := ih (fun j hj => h j (List.mem_cons_of_mem _ hj))
      (.value (.array (i.2.settled :: done) :: stack))
    refine ⟨r', by simpa using hr', ?_⟩
    exact (hitem.append (leads_singleton hcomma)).append hitems

theorem AwaitsKey.readToken_string {r : Reading} {done : Entries Json} {stack : List Frame}
    (hr : AwaitsKey r done stack) (key : Text) :
    readToken r (.string key) = .ok (.colon done key stack) := by
  cases hr <;> rfl

theorem leads_memberTokens {members : List (Text × List JsonToken × Json)} {r : Reading}
    {stack : List Frame} {done : Entries Json}
    (h : ∀ m ∈ members, IsReadAs m.2.1 m.2.2.settled) (hr : AwaitsKey r done stack) :
    ∃ r', AwaitsKey r' (members.foldl (fun es m => es.insert m.1 m.2.2.settled) done) stack ∧
      Leads (memberTokens members) r r' := by
  induction members generalizing r done with
  | nil => exact ⟨r, hr, rfl⟩
  | cons m members ih =>
    have hkey := hr.readToken_string m.1
    have hcolon : readToken (.colon done m.1 stack) colon =
        .ok (.value (.object done m.1 :: stack)) := rfl
    have hvalue := h m List.mem_cons_self _ _ (.value (.object done m.1 :: stack))
    have hcomma : readToken (.after m.2.2.settled (.object done m.1 :: stack)) comma =
        .ok (.key (done.insert m.1 m.2.2.settled) stack) := rfl
    obtain ⟨r', hr', hmembers⟩ := ih (fun n hn => h n (List.mem_cons_of_mem _ hn))
      (.key (done.insert m.1 m.2.2.settled) stack)
    have hmember := Leads.cons hkey (.cons hcolon (hvalue.append (leads_singleton hcomma)))
    exact ⟨r', hr', hmember.append hmembers⟩

def readEntries (members : List (Text × List JsonToken × Json)) : Entries Json :=
  members.foldl (fun es m => es.insert m.1 m.2.2.settled) []

theorem readEntries_eq (members : List (Text × List JsonToken × Json)) :
    readEntries members =
      Entries.ofList ((memberEntries members).map fun m => (m.1, m.2.settled)) := by
  simp [readEntries, memberEntries, Entries.ofList, List.foldl_map]

theorem settled_memberEntries (members : List (Text × List JsonToken × Json)) (key : Text)
    (v : Json) :
    (object (memberEntries members ++ [(key, v)])).settled =
      object ((readEntries members).insert key v.settled) := by
  rw [settled_object, List.map_append, List.map_singleton, record, Entries.ofList_concat,
    ← readEntries_eq]

theorem Spells.isReadAs {tokens : List JsonToken} {v : Json} (h : Spells tokens v) :
    IsReadAs tokens v.settled := by
  induction h with
  | string t =>
    intro r stack hr
    cases hr <;> rfl
  | literal hv =>
    intro r stack hr
    rw [hv.settled_eq]
    cases hr <;> rfl
  | emptyArray =>
    intro r stack hr
    cases hr <;> rfl
  | emptyObject =>
    intro r stack hr
    cases hr <;> rfl
  | @array items last v _ _ hitems hlast =>
    intro r stack hr
    have hopen : readToken r openArray = .ok (.arrayStart stack) := by
      cases hr <;> rfl
    obtain ⟨r', hr', hread⟩ := leads_itemTokens hitems (.arrayStart stack)
    have hclose : readToken (.after v.settled
        (.array ((items.map fun i => i.2.settled).reverse ++ []) :: stack)) closeArray =
          .ok (.after (settled (.array (items.map Prod.snd ++ [v]))) stack) := by
      simp [readToken]
    exact .cons hopen (hread.append ((hlast _ _ hr').append (leads_singleton hclose)))
  | @object members key last v _ _ hmembers hlast =>
    intro r stack hr
    have hopen : readToken r openObject = .ok (.objectStart stack) := by
      cases hr <;> rfl
    obtain ⟨r', hr', hread⟩ := leads_memberTokens hmembers (.objectStart stack)
    have hkey := hr'.readToken_string key
    have hcolon : readToken (.colon (readEntries members) key stack) colon =
        .ok (.value (.object (readEntries members) key :: stack)) := rfl
    have hvalue := hlast _ _ (.value (.object (readEntries members) key :: stack))
    have hclose : readToken (.after v.settled (.object (readEntries members) key :: stack))
        closeObject =
          .ok (.after (settled (.object (memberEntries members ++ [(key, v)]))) stack) := by
      rw [settled_memberEntries]
      rfl
    have hend := Leads.cons hkey (.cons hcolon (hvalue.append (leads_singleton hclose)))
    exact .cons hopen (hread.append hend)

/-! ### What is read was spelled -/

/-- The tokens that stand in front of an awaited value: those that have opened the arrays and
objects which are still open, and of what is in these so far. -/
inductive Opens : List JsonToken → List Frame → Prop
  | nil : Opens [] []
  | array {before : List JsonToken} {stack : List Frame} {items : List (List JsonToken × Json)} :
    Opens before stack → (∀ i ∈ items, Spells i.1 i.2) →
    Opens (before ++ openArray :: itemTokens items)
      (.array (items.map fun i => i.2.settled).reverse :: stack)
  | object {before : List JsonToken} {stack : List Frame}
    {members : List (Text × List JsonToken × Json)} {key : Text} :
    Opens before stack → (∀ m ∈ members, Spells m.2.1 m.2.2) →
    Opens (before ++ openObject :: (memberTokens members ++ [.string key, colon]))
      (.object (readEntries members) key :: stack)

inductive Takes : List JsonToken → Reading → Prop
  | value {before : List JsonToken} {stack : List Frame} : Opens before stack →
    Takes before (.value stack)
  | arrayStart {before : List JsonToken} {stack : List Frame} : Opens before stack →
    Takes (before ++ [openArray]) (.arrayStart stack)
  | objectStart {before : List JsonToken} {stack : List Frame} : Opens before stack →
    Takes (before ++ [openObject]) (.objectStart stack)
  | key {before : List JsonToken} {stack : List Frame}
    {members : List (Text × List JsonToken × Json)} : Opens before stack →
    (∀ m ∈ members, Spells m.2.1 m.2.2) →
    Takes (before ++ openObject :: memberTokens members) (.key (readEntries members) stack)
  | colon {before : List JsonToken} {stack : List Frame}
    {members : List (Text × List JsonToken × Json)} {key : Text} : Opens before stack →
    (∀ m ∈ members, Spells m.2.1 m.2.2) →
    Takes (before ++ openObject :: (memberTokens members ++ [.string key]))
      (.colon (readEntries members) key stack)
  | after {before tokens : List JsonToken} {stack : List Frame} {v : Json} : Opens before stack →
    Spells tokens v → Takes (before ++ tokens) (.after v.settled stack)

theorem itemTokens_concat (items : List (List JsonToken × Json)) (tokens : List JsonToken)
    (v : Json) : itemTokens (items ++ [(tokens, v)]) = itemTokens items ++ (tokens ++ [comma]) := by
  simp [itemTokens]

theorem memberTokens_concat (members : List (Text × List JsonToken × Json)) (key : Text)
    (tokens : List JsonToken) (v : Json) :
    memberTokens (members ++ [(key, tokens, v)]) =
      memberTokens members ++ (.string key :: colon :: (tokens ++ [comma])) := by
  simp [memberTokens]

theorem readEntries_concat (members : List (Text × List JsonToken × Json)) (key : Text)
    (tokens : List JsonToken) (v : Json) :
    readEntries (members ++ [(key, tokens, v)]) = (readEntries members).insert key v.settled := by
  simp [readEntries]

theorem Opens.takes_startValue {before : List JsonToken} {stack : List Frame} {token : JsonToken}
    {r : Reading} (hopens : Opens before stack) (htoken : token.IsDecoded)
    (h : startValue stack token = .ok r) : Takes (before ++ [token]) r := by
  cases token with
  | openArray =>
    cases h
    exact .arrayStart hopens
  | openObject =>
    cases h
    exact .objectStart hopens
  | string t =>
    cases h
    exact .after hopens (.string t)
  | literal v =>
    cases h
    have hv : v.IsDecoded := htoken
    have htakes := Takes.after hopens (.literal hv)
    rwa [hv.settled_eq] at htakes
  | closeArray | closeObject | comma | colon | tooLong | invalid => cases h

theorem Takes.comma_item {before tokens : List JsonToken} {stack : List Frame} {v : Json}
    {items : List Json} (hopens : Opens before (.array items :: stack)) (hv : Spells tokens v) :
    Takes (before ++ tokens ++ [comma]) (.value (.array (v.settled :: items) :: stack)) := by
  cases hopens with
  | @array before _ items hbefore hitems =>
    have hall : ∀ i ∈ items ++ [(tokens, v)], Spells i.1 i.2 :=
      List.forall_mem_append.2 ⟨hitems, List.forall_mem_singleton.2 hv⟩
    have hnext := Takes.value (.array hbefore hall)
    rw [itemTokens_concat] at hnext
    simpa using hnext

theorem Takes.closeArray_item {before tokens : List JsonToken} {stack : List Frame} {v : Json}
    {items : List Json} (hopens : Opens before (.array items :: stack)) (hv : Spells tokens v) :
    Takes (before ++ tokens ++ [closeArray])
      (.after (.array (v.settled :: items).reverse) stack) := by
  cases hopens with
  | array hbefore hitems =>
    have hnext := Takes.after hbefore (.array hitems hv)
    simpa [Function.comp_def] using hnext

theorem Takes.comma_member {before tokens : List JsonToken} {stack : List Frame} {v : Json}
    {entries : Entries Json} {key : Text} (hopens : Opens before (.object entries key :: stack))
    (hv : Spells tokens v) :
    Takes (before ++ tokens ++ [comma]) (.key (entries.insert key v.settled) stack) := by
  cases hopens with
  | @object before _ members _ hbefore hmembers =>
    have hall : ∀ m ∈ members ++ [(key, tokens, v)], Spells m.2.1 m.2.2 :=
      List.forall_mem_append.2 ⟨hmembers, List.forall_mem_singleton.2 hv⟩
    have hnext := Takes.key hbefore hall
    rw [memberTokens_concat, readEntries_concat] at hnext
    simpa using hnext

theorem Takes.closeObject_member {before tokens : List JsonToken} {stack : List Frame} {v : Json}
    {entries : Entries Json} {key : Text} (hopens : Opens before (.object entries key :: stack))
    (hv : Spells tokens v) :
    Takes (before ++ tokens ++ [closeObject])
      (.after (.object (entries.insert key v.settled)) stack) := by
  cases hopens with
  | @object before _ members _ hbefore hmembers =>
    have hnext := Takes.after hbefore (@Spells.object members key tokens v hmembers hv)
    rw [settled_memberEntries] at hnext
    simpa using hnext

theorem Takes.readToken {before : List JsonToken} {r r' : Reading} {token : JsonToken}
    (hr : Takes before r) (htoken : token.IsDecoded) (h : readToken r token = .ok r') :
    Takes (before ++ [token]) r' := by
  unfold Json.readToken at h
  split at h
  · cases hr with
    | value hopens => exact hopens.takes_startValue htoken h
  · cases h
    cases hr with
    | arrayStart hopens =>
      rw [List.append_assoc]
      exact .after hopens .emptyArray
  · cases hr with
    | arrayStart hopens =>
      have hinner := @Opens.array _ _ [] hopens (by simp)
      exact hinner.takes_startValue htoken h
  · cases h
    cases hr with
    | objectStart hopens =>
      rw [List.append_assoc]
      exact .after hopens .emptyObject
  · cases h
    cases hr with
    | objectStart hopens =>
      rw [List.append_assoc]
      exact @Takes.colon _ _ [] _ hopens (by simp)
  · cases h
    cases hr with
    | key hopens hmembers =>
      rw [List.append_assoc]
      exact .colon hopens hmembers
  · cases h
    cases hr with
    | colon hopens hmembers =>
      rw [List.append_assoc, List.cons_append, List.append_assoc]
      exact .value (.object hopens hmembers)
  · cases h
    cases hr with
    | after hopens hv => exact .comma_item hopens hv
  · cases h
    cases hr with
    | after hopens hv => exact .closeArray_item hopens hv
  · cases h
    cases hr with
    | after hopens hv => exact .comma_member hopens hv
  · cases h
    cases hr with
    | after hopens hv => exact .closeObject_member hopens hv
  · cases h

theorem Takes.foldlM_readToken {before tokens : List JsonToken} {r r' : Reading}
    (hr : Takes before r) (htokens : ∀ token ∈ tokens, token.IsDecoded) (h : Leads tokens r r') :
    Takes (before ++ tokens) r' := by
  induction tokens generalizing before r with
  | nil =>
    cases h
    rwa [List.append_nil]
  | cons token tokens ih =>
    rw [Leads, List.foldlM_cons] at h
    obtain ⟨next, hnext, h⟩ := Except.bind_eq_ok.1 h
    have htaken := hr.readToken (htokens token List.mem_cons_self) hnext
    have hall := ih htaken (fun t ht => htokens t (List.mem_cons_of_mem _ ht)) h
    rwa [List.append_assoc] at hall

/-- A text is read as a document just when its tokens spell one that the document is read for. -/
theorem read_eq_ok_iff_spells {t : Text} {v : Json} :
    read t = .ok v ↔ ∃ spelled, Spells (ofText t) spelled ∧ spelled.settled = v := by
  constructor
  · intro h
    obtain ⟨r, hr, h⟩ := Except.bind_eq_ok.1 h
    have htakes := Takes.foldlM_readToken (.value .nil) (isDecoded_of_mem_ofText t) hr
    split at h
    · cases h
      rw [List.nil_append] at htakes
      generalize ofText t = tokens at htakes
      cases htakes with
      | @after _ _ _ spelled hopens hspelled =>
        cases hopens
        exact ⟨spelled, hspelled, rfl⟩
    · cases h
  · rintro ⟨spelled, hspelled, rfl⟩
    have hread : (ofText t).foldlM readToken (.value []) = .ok (.after spelled.settled []) :=
      hspelled.isReadAs _ _ (.value [])
    rw [read, ofTokens, hread]
    rfl

end Json

end SchemaQuery
