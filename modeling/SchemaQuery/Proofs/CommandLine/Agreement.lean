import SchemaQuery.Proofs.Calendar.Ordinal
import SchemaQuery.Proofs.Client
import SchemaQuery.Proofs.CommandLine.Run
import SchemaQuery.Proofs.Query.Document
import SchemaQuery.Proofs.Request.Reader

/-!
# What is printed is what is sent

One command prints the query of a request, the other one sends it. The first text is indented and
keeps all characters, the second one stands on one line and escapes them; but what is read from the
second is what is read from the first, without the id, which is in the address, and without a filter
that has no conditions. Every value of the request is found in both of them again.
-/

namespace SchemaQuery

open Request (items checkFilter)

variable {now : Moment}

/-- A leaf of a document that stands for an item of a request. Its dates are those of the filter at
some moment; unless the filter is about a date, its value is that of the item. -/
def IsLeafOf (now : Moment) (item leaf : Json) : Prop :=
  ∃ f l, checkFilter item = .valid f ∧ (f.leaf now).value = some l ∧ l.toJson = leaf ∧
    (f.filterType ≠ "date" →
      leaf = LeafFilter.condition f.property f.filterType
        [(f.operator, (item.member? "value").getD .null)])

theorem isLeafOf_of_leaf {item : Json} {f : FilterSpec} {l : LeafFilter}
    (hitem : checkFilter item = .valid f) (hleaf : (f.leaf now).value = some l) :
    IsLeafOf now item l.toJson := by
  obtain ⟨-, -, -, hvalue⟩ := Request.checkFilter_eq_valid hitem
  refine ⟨f, l, hitem, hleaf, rfl, fun hdate => ?_⟩
  rw [FilterSpec.toJson_of_other hdate hleaf, hvalue]

theorem forall₂_isLeafOf {items : List Json} {filters : List FilterSpec} {kept : List LeafFilter}
    (hitems : List.Forall₂ (fun item f => checkFilter item = .valid f) items filters)
    (hleaves : List.Forall₂ (fun f l => (f.leaf now).value = some l) filters kept) :
    List.Forall₂ (IsLeafOf now) items (kept.map LeafFilter.toJson) := by
  rw [List.forall₂_map_right_iff]
  induction hitems generalizing kept with
  | nil =>
    rw [List.forall₂_nil_left_iff] at hleaves
    rw [hleaves]
    exact .nil
  | cons hitem _ ih =>
    obtain ⟨l, rest, hleaf, hrest, rfl⟩ := List.forall₂_cons_left_iff.1 hleaves
    exact .cons (isLeafOf_of_leaf hitem hleaf) (ih hrest)

theorem FilterSpec.isReadable_of_checkFilter {escaping : Escaping} {item : Json} {f : FilterSpec}
    (h : checkFilter item = .valid f) (hitem : item.IsReadable escaping) :
    f.IsReadable escaping := by
  obtain ⟨hproperty, htype, hoperator, hvalue⟩ := Request.checkFilter_eq_valid h
  exact ⟨hproperty, htype, hoperator, hvalue ▸ hitem.getD_member?⟩

namespace Http

/-- A request that sends a printed query to its database: to the address of the id that is printed,
with the rest of the document as its body. -/
structure Request.Sends (base : Text) (printed : Entries Json) (request : Request) : Prop where
  method : request.method = .post
  url : ∃ id segment, Entries.find? "databaseId" printed = some (.string id) ∧
    segment? id = some segment ∧ request.url = ApiConfig.queryUrl base segment
  body : ∃ t, request.body = some t ∧ Json.read t = .ok (.object (CompiledQuery.sent printed))

theorem exists_request_of_query {client : ApiConfig} {server : Server} {q : CompiledQuery}
    {answer : Json} (hbase : IsWeb client.apiBase)
    (h : (client.query server q.databaseId q.requestBody).result = .ok answer) :
    q.databaseId.isScalar = true ∧
      ∃ request, (client.query server q.databaseId q.requestBody).request = some request ∧
        (q.IsReadable .nonAscii → request.Sends client.apiBase q.members) := by
  rw [q.requestBody_eq] at h ⊢
  obtain ⟨segment, hsegment, hrequest⟩ := ApiConfig.query_eq_ok hbase h
  refine ⟨isScalar_of_segment? hsegment, _, hrequest, fun hreadable => ⟨rfl, ?_, ?_⟩⟩
  · exact ⟨q.databaseId, segment, q.find?_databaseId_members, hsegment, rfl⟩
  · rw [← q.requestBody_eq]
    exact ⟨_, rfl, hreadable.requestBody.read_writeAt .oneLine⟩

end Http

/-- The printed text of a query is read back as its document. -/
theorem CompiledQuery.IsReadable.read_printed {q : CompiledQuery} (h : q.IsReadable .controls) :
    Json.read (q.toJson.writeIndented ++ "\n") = .ok (.object q.members) := by
  rw [← q.toJson_eq]
  exact h.toJson.read_writeAt_append (.indented 2) (by simp [Text.ofString, JsonToken.isSpace])

namespace Surroundings

variable {s : Surroundings} {server : Http.Server} {clock : Moment} {source : RequestSource}
  {compileArguments queryArguments : List Text}

def HoldsRequest (s : Surroundings) (path : Text) (document : Json) : Prop :=
  ∃ t, s.requestText path = .ok t ∧ Json.read (Request.unfenced t) = .ok document

/-- A request compiles to a query at its reference instant. -/
structure Compiles (s : Surroundings) (source : RequestSource) (document : Json) (now : Moment)
    (q : CompiledQuery) : Prop where
  holds : s.HoldsRequest source.path document
  instant : s.now source.now = .ok now
  yields : ∃ (c : Compiler) (r : QueryRequest), Request.check document = .valid r ∧
    (c.compile r.database r.filters r.sort now).value = .ok q

namespace Compiles

variable {document : Json} {q : CompiledQuery}

theorem forall₂_isLeafOf (h : s.Compiles source document now q) :
    List.Forall₂ (IsLeafOf now) (items document) (q.filters.map LeafFilter.toJson) := by
  obtain ⟨c, r, hcheck, hq⟩ := h.yields
  obtain ⟨hitems, -⟩ := Request.check_eq_valid hcheck
  obtain ⟨hleaves, -⟩ := Compiler.forall₂_leaf_of_compile hq
  exact SchemaQuery.forall₂_isLeafOf hitems hleaves

theorem isReadable (h : s.Compiles source document now q) (hscalar : document.IsScalar)
    (hid : q.databaseId.isScalar = true) (escaping : Escaping) : q.IsReadable escaping := by
  obtain ⟨t, -, hread⟩ := h.holds
  have hdocument : document.IsReadable escaping :=
    (Json.isDecoded_of_read hread).isReadable (.inr hscalar)
  obtain ⟨c, r, hcheck, hq⟩ := h.yields
  obtain ⟨hitems, hsort⟩ := Request.check_eq_valid hcheck
  obtain ⟨hleaves, hsame⟩ := Compiler.forall₂_leaf_of_compile hq
  refine ⟨hid, fun leaf hleaf => ?_, hsame ▸ hsort⟩
  obtain ⟨f, hf, hfleaf⟩ := exists_of_forall₂ hleaves leaf hleaf
  obtain ⟨item, hitem, hfilter⟩ := exists_of_forall₂ hitems f hf
  have hreadable := FilterSpec.isReadable_of_checkFilter hfilter (hdocument.of_mem_items hitem)
  exact hreadable.leaf hfleaf

end Compiles

theorem compiles_of_prepare {w : Workspace} {r : QueryRequest} {store : SchemaStore}
    {q : CompiledQuery} (hprepare : (w.prepare s source.path).value = .ok (r, store))
    (hnow : s.now source.now = .ok now)
    (hq : ((w.compiler store).compile r.database r.filters r.sort now).value = .ok q) :
    ∃ document, s.Compiles source document now q := by
  obtain ⟨t, htext, hread⟩ := Workspace.prepare_eq_ok hprepare
  obtain ⟨document, hdocument, hcheck⟩ := Request.read_eq_ok_iff.1 hread
  exact ⟨document, ⟨t, htext, hdocument⟩, hnow, _, r, hcheck, hq⟩

/-- The reference instant is the one that was typed, wherever the clock stands. -/
theorem now_of_typed {typed : Option Text} (h : typed.filter (· ≠ []) = none → clock = s.clock) :
    Surroundings.now { s with server, clock } typed = s.now typed := by
  unfold now
  split
  · rename_i hnone
    rw [h hnone]
  · rfl

/-- The one command prints the query that the other one sends. -/
theorem exists_compiles_of_success
    (hclock : source.now.filter (· ≠ []) = none → clock = s.clock)
    (hprinted : (s.runCommand (.compile source)).ending = .success)
    (hsent : (runCommand { s with server, clock } (.query source)).ending = .success) :
    ∃ settings document now q, ∃ client : ApiConfig, ∃ answer,
      Settings.load s.environment s.files = .ok settings ∧ s.Compiles source document now q ∧
      (s.runCommand (.compile source)).output = q.toJson.writeIndented ++ "\n" ∧
      client.apiBase = settings.apiBase ∧
      (client.query server q.databaseId q.requestBody).result = .ok answer ∧
      (runCommand { s with server, clock } (.query source)).calls =
        (client.query server q.databaseId q.requestBody).request.toList := by
  obtain ⟨settings, setup, w, hsettings, hw, hresult, -⟩ := runCommand_success hprinted
  obtain ⟨settings', setup', w', hsettings', hw', hresult', hcalls⟩ := runCommand_success hsent
  -- Server and clock have no part in the settings, in the workspace and in the request.
  obtain ⟨rfl, rfl⟩ : settings = settings' ∧ setup = setup' :=
    Prod.mk.inj (Except.ok.inj (hsettings.symm.trans hsettings'))
  obtain rfl : w = w' := Except.ok.inj (hw.symm.trans hw')
  obtain ⟨r, store, now, q, hprepare, hnow, hq, houtput⟩ := Workspace.compileText_eq_ok hresult
  obtain ⟨r', store', client, now', q', answer, hprepare', hclient, hnow', hq', hanswer, hcall⟩ :=
    Workspace.query_eq_ok hresult'
  obtain ⟨rfl, rfl⟩ : r = r' ∧ store = store' :=
    Prod.mk.inj (Except.ok.inj (hprepare.symm.trans hprepare'))
  obtain rfl : now = now' := by
    rw [now_of_typed hclock, hnow] at hnow'
    exact Except.ok.inj hnow'
  obtain rfl : q = q' := Except.ok.inj (hq.symm.trans hq')
  obtain ⟨document, hcompiles⟩ := compiles_of_prepare hprepare hnow hq
  exact ⟨settings, document, now, q, client, answer, load_of_settings hsettings, hcompiles, houtput,
    apiBase_of_workspace hw hclient, hanswer, hcalls.trans hcall⟩

/-- A run that printed a query and a run that sent one agree. Both hold one leaf for each filter of
the request, with its value, and with the dates that it has at the reference instant. -/
def Agree (s : Surroundings) (source : RequestSource) (printing sending : Run) : Prop :=
  ∃ settings document now printed leaves request,
    Settings.load s.environment s.files = .ok settings ∧
    s.HoldsRequest source.path document ∧
    s.now source.now = .ok now ∧
    Json.read printing.output = .ok (.object printed) ∧
    Entries.find? "filter" printed = some (.object [("and", .array leaves)]) ∧
    List.Forall₂ (IsLeafOf now) (items document) leaves ∧
    sending.calls = [request] ∧
    request.Sends settings.apiBase printed ∧
    (leaves ≠ [] →
      Entries.find? "filter" (CompiledQuery.sent printed) = Entries.find? "filter" printed)

/-- What the one command prints is what the other one sends, whatever server and clock that one
finds, if the request holds no surrogates and the service is an address of the web. Without a typed
instant, the clock has to stand still. -/
theorem agree_of_success
    (hcompile : Arguments.read compileArguments = .ok (.command (.compile source)))
    (hquery : Arguments.read queryArguments = .ok (.command (.query source)))
    (hclock : source.now.filter (· ≠ []) = none → clock = s.clock)
    (hscalar : ∀ document, s.HoldsRequest source.path document → document.IsScalar)
    (hweb : ∀ settings, Settings.load s.environment s.files = .ok settings →
      Http.IsWeb settings.apiBase)
    (hprinted : (s.run compileArguments).ending = .success)
    (hsent : (Surroundings.run { s with server, clock } queryArguments).ending = .success) :
    s.Agree source (s.run compileArguments)
      (Surroundings.run { s with server, clock } queryArguments) := by
  rw [run_of_read hcompile] at hprinted ⊢
  rw [run_of_read hquery] at hsent ⊢
  obtain ⟨settings, document, now, q, client, answer, hload, hcompiles, houtput, hbase, hanswer,
    hcalls⟩ := exists_compiles_of_success hclock hprinted hsent
  have hwebClient : Http.IsWeb client.apiBase := hbase ▸ hweb settings hload
  obtain ⟨hid, request, hrequest, hsends⟩ := Http.exists_request_of_query hwebClient hanswer
  have hreadable := hcompiles.isReadable (hscalar document hcompiles.holds) hid
  refine ⟨settings, document, now, q.members, q.filters.map LeafFilter.toJson, request, hload,
    hcompiles.holds, hcompiles.instant, ?_, q.find?_filter_members, hcompiles.forall₂_isLeafOf, ?_,
    ?_, ?_⟩
  · rw [houtput]
    exact (hreadable .controls).read_printed
  · rw [hcalls, hrequest]
    rfl
  · rw [← hbase]
    exact hsends (hreadable .nonAscii)
  · intro hne
    exact CompiledQuery.find?_filter_sent (by simpa using hne)

/-! ### Two filters of one database -/

/-- The filter of a request as an item of its document. -/
def filterItem (property filterType operator : Text) (value : Json) : Json :=
  .record [("property", .string property), ("filterType", .string filterType),
    ("operator", .string operator), ("value", value)]

/-- What is due before a day in May, and has an accent in its title. -/
def dueInMay : Json :=
  .record [("database", .string "T"), ("filters", .array [
    filterItem "D" "date" "before" (.string "5 May"),
    filterItem "N" "title" "contains" (.string "é")])]

def propertyItem (name type : Text) : Text × Json :=
  (name, .record [("id", .string name), ("type", .string type), ("name", .string name)])

/-- A registered database with a date and a title at hand. -/
def dueDates : Surroundings where
  environment := [("NOTION_API_KEY", "secret")]
  files :=
    let file (v : Json) : FileEntry := .file ((Text.utf8? (v.write .controls)).getD [])
    ⟨[(["notion-config.json"],
        file (.record [("databases", .record [("T", .record [("id", .string "t")])])])),
      ([".notion-cache"], .directory),
      ([".notion-cache", "schemas.json"],
        file (.record [("T", .record [("id", .string "t"), ("title", .string "T"),
          ("properties", .record [propertyItem "D" "date", propertyItem "N" "title"]),
          ("lastUpdated", .int 0)])]))]⟩
  input := dueInMay.write .controls
  server _ := .unreachable
  clock := default

/-- A service that finds nothing. -/
def findsNothing : Http.Server := fun _ => .body ((Text.utf8? "\x7b\x7d").getD [])

theorem isScalar_of_holdsRequest_dueDates {document : Json}
    (h : dueDates.HoldsRequest "-" document) : document.IsScalar := by
  obtain ⟨t, htext, hread⟩ := h
  obtain rfl : dueDates.input = t := Except.ok.inj htext
  have hwritten : (Json.read (Request.unfenced dueDates.input)).toOption.all
      (fun v => Text.isScalar (v.write .controls)) = true := by
    decide +kernel
  rw [hread] at hwritten
  exact Json.isScalar_of_writeAt document 0 hwritten

theorem isWeb_of_load_dueDates {settings : Settings}
    (h : Settings.load dueDates.environment dueDates.files = .ok settings) :
    Http.IsWeb settings.apiBase := by
  have hbase : (Settings.load dueDates.environment dueDates.files).toOption.all
      (fun settings => settings.apiBase == ("https://api.notion.com/v1" : Text)) = true := by
    decide +kernel
  rw [h] at hbase
  exact ⟨"https", "//api.notion.com/v1", eq_of_beq hbase, .inr rfl⟩

theorem agree_of_success_dueInMay :
    (dueDates.run ["compile", "--now", "2024-05-01"]).ending = .success ∧
    (Surroundings.run { dueDates with server := findsNothing, clock := .ofDate Date.last }
      ["query", "--now", "2024-05-01"]).ending = .success ∧
    dueDates.Agree ⟨"-", some "2024-05-01"⟩ (dueDates.run ["compile", "--now", "2024-05-01"])
      (Surroundings.run { dueDates with server := findsNothing, clock := .ofDate Date.last }
        ["query", "--now", "2024-05-01"]) := by
  have hprinted := Ending.isSuccess_iff.1
    (by decide +kernel : (dueDates.run ["compile", "--now", "2024-05-01"]).ending.isSuccess = true)
  have hsent := Ending.isSuccess_iff.1
    (by decide +kernel : (Surroundings.run
      { dueDates with server := findsNothing, clock := .ofDate Date.last }
      ["query", "--now", "2024-05-01"]).ending.isSuccess = true)
  exact ⟨hprinted, hsent, agree_of_success rfl rfl (fun hnone => nomatch hnone)
    (fun _ => isScalar_of_holdsRequest_dueDates) (fun _ => isWeb_of_load_dueDates) hprinted hsent⟩

end Surroundings

end SchemaQuery
