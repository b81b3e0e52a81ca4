import SchemaQuery.Json
import SchemaQuery.Text.Numeral

/-!
# JSON tokens

A text is cut into tokens by an automaton that reads one code point at a time. Literals and numbers
are maximal runs of letters, digits, signs and points. What cannot begin or continue a token ends
the row with the token `invalid`. A whole number of more than 4300 digits is a token of its own,
since it is refused for its length and not for its form.
-/

namespace SchemaQuery

inductive JsonToken where
  | openArray
  | closeArray
  | openObject
  | closeObject
  | comma
  | colon
  | string (t : Text)
  /-- A literal or a number. -/
  | literal (v : Json)
  /-- A whole number with too many digits. -/
  | tooLong (digits : Nat)
  | invalid

namespace JsonToken

/-- The digits that a whole number may have. -/
def digitLimit : Nat := 4300

/-- A decimal point and digits, as digit values, and the rest. -/
def fraction? : Text → Option (List Nat × Text)
  | .scalar '.' :: t =>
    match Text.spanDigits t with
    | ([], _) => none
    | (digits, rest) => some (digits, rest)
  | _ => none

def ofNumber (t : Text) : JsonToken :=
  let negative := t.head? = some (.scalar '-')
  match Text.spanDigits (Text.without "-" t) with
  | ([], _) => invalid
  | (0 :: _ :: _, _) => invalid
  | (whole, rest) =>
    let fraction := fraction? rest
    let rest := (fraction.map Prod.snd).getD rest
    let exponent := Text.exponent? rest
    let rest := (exponent.map Prod.snd).getD rest
    if fraction.isNone && exponent.isNone then
      if digitLimit < whole.length then tooLong whole.length
      else if rest.isEmpty then
        let n : Int := Text.number whole
        literal (.int (if negative then -n else n))
      else invalid
    else if rest.isEmpty then
      let decimals := (fraction.map Prod.fst).getD []
      let scale := (exponent.map Prod.fst).getD 0
      literal (.float
        (.ofDecimal negative (Text.number (whole ++ decimals)) (scale - decimals.length)))
    else invalid

def ofRun (t : Text) : JsonToken :=
  if t = "null" then literal .null
  else if t = "true" then literal (.bool true)
  else if t = "false" then literal (.bool false)
  else if t = "NaN" then literal (.float .nan)
  else if t = "Infinity" then literal (.float (.infinity false))
  else if t = "-Infinity" then literal (.float (.infinity true))
  else ofNumber t

inductive Piece where
  | point (c : CodePoint)
  /-- The number of a 16-bit unit that was written as an escape. -/
  | unit (n : Nat)

/-- The text of a string. Two escaped units that form a surrogate pair are one code point. -/
def joinPieces : List Piece → Text
  | [] => []
  | .point c :: ps => c :: joinPieces ps
  | .unit u :: .unit v :: ps =>
    if 0xD800 ≤ u ∧ u < 0xDC00 ∧ 0xDC00 ≤ v ∧ v < 0xE000 then
      .ofNat (0x10000 + (u - 0xD800) * 1024 + (v - 0xDC00)) :: joinPieces ps
    else .ofNat u :: joinPieces (.unit v :: ps)
  | .unit u :: ps => .ofNat u :: joinPieces ps

/-- Where the automaton stands. What has been read of a token is kept backwards. -/
inductive Mode where
  | between
  | run (read : Text)
  | string (read : List Piece)
  | escape (read : List Piece)
  | unit (read : List Piece) (digits : List Nat)

def isSpace (c : CodePoint) : Bool :=
  c = .scalar ' ' || c = .scalar '\t' || c = .scalar '\n' || c = .scalar '\r'

def isRun (c : CodePoint) : Bool :=
  c.is fun c => c.isAlphanum || c = '+' || c = '-' || c = '.'

/-- What a backslash and a letter stand for. -/
def escaped? : CodePoint → Option Char
  | .scalar '"' => some '"'
  | .scalar '\\' => some '\\'
  | .scalar '/' => some '/'
  | .scalar 'b' => some '\x08'
  | .scalar 'f' => some '\x0c'
  | .scalar 'n' => some '\n'
  | .scalar 'r' => some '\r'
  | .scalar 't' => some '\t'
  | _ => none

/-- The first code point of a token, or a space. -/
def enter (c : CodePoint) : List JsonToken × Option Mode :=
  if isSpace c then ([], some .between)
  else if isRun c then ([], some (.run [c]))
  else
    match c with
    | .scalar '"' => ([], some (.string []))
    | .scalar '[' => ([openArray], some .between)
    | .scalar ']' => ([closeArray], some .between)
    | .scalar '\x7b' => ([openObject], some .between)
    | .scalar '\x7d' => ([closeObject], some .between)
    | .scalar ',' => ([comma], some .between)
    | .scalar ':' => ([colon], some .between)
    | _ => ([invalid], none)

/-- One step of the automaton: the tokens that are complete, and how to go on. -/
def step : Mode → CodePoint → List JsonToken × Option Mode
  | .between, c => enter c
  | .run read, c =>
    if isRun c then ([], some (.run (c :: read)))
    else (ofRun read.reverse :: (enter c).1, (enter c).2)
  | .string read, c =>
    if c = .scalar '"' then ([string (joinPieces read.reverse)], some .between)
    else if c = .scalar '\\' then ([], some (.escape read))
    else if c.value < 0x20 then ([invalid], none)
    else ([], some (.string (.point c :: read)))
  | .escape read, c =>
    if c = .scalar 'u' then ([], some (.unit read []))
    else
      match escaped? c with
      | some e => ([], some (.string (.point (.scalar e) :: read)))
      | none => ([invalid], none)
  | .unit read digits, c =>
    match c.hexDigit? with
    | none => ([invalid], none)
    | some d =>
      match digits with
      | [x, y, z] => ([], some (.string (.unit (((z * 16 + y) * 16 + x) * 16 + d) :: read)))
      | _ => ([], some (.unit read (d :: digits)))

/-- The tokens that the end of the text completes. -/
def finish : Mode → List JsonToken
  | .between => []
  | .run read => [ofRun read.reverse]
  | _ => [invalid]

/-- The tokens of a text, from a mode on. -/
def scan (mode : Mode) : Text → List JsonToken
  | [] => finish mode
  | c :: t =>
    match step mode c with
    | (tokens, some mode) => tokens ++ scan mode t
    | (tokens, none) => tokens

def ofText (t : Text) : List JsonToken := scan .between t

end JsonToken

end SchemaQuery
