import Mathlib.Tactic

/-! # JSON texts

The JSON grammar as automata over UTF-16 code units that take one unit at a time. `jsonLiteral` decodes a
text that is one complete string literal. `jsonEvents` reads a document and reports its containers, member
names and values in order. The report is only ever written, so behind a complete value it depends on
nothing but the containers that are open and the rest of the text.
-/

namespace GestureSuite.Text

/-- The code unit of an ASCII character. -/
def ascii (c : Char) : UInt16 := UInt16.ofNat c.toNat

/-- A control character has to be escaped in a string literal. -/
def isControl (unit : UInt16) : Bool := unit.toNat < 0x20

/-- Where the reader of a literal stands: between two characters, behind a backslash, or behind `\u` with
the value of the digits so far. -/
inductive JsonLiteral where
  | plain
  | escaped
  | unicode (missing : ℕ) (value : UInt16)
deriving DecidableEq, Repr

namespace JsonLiteral

def hexDigit (unit : UInt16) : Option UInt16 :=
  if ascii '0' ≤ unit ∧ unit ≤ ascii '9' then some (unit - ascii '0')
  else if ascii 'a' ≤ unit ∧ unit ≤ ascii 'f' then some (unit - ascii 'a' + 10)
  else if ascii 'A' ≤ unit ∧ unit ≤ ascii 'F' then some (unit - ascii 'A' + 10)
  else none

/-- The unit that a backslash and a letter stand for. -/
def shortEscape (letter : UInt16) : Option UInt16 :=
  [(ascii '"', ascii '"'), (ascii '\\', ascii '\\'), (ascii '/', ascii '/'), (ascii 'b', 0x08), (ascii 'f', 0x0C),
    (ascii 'n', 0x0A), (ascii 'r', 0x0D), (ascii 't', 0x09)].lookup letter

/-- One unit that does not close the literal, with what it decodes to. -/
def step : JsonLiteral → UInt16 → Option (JsonLiteral × List UInt16)
  | .plain, unit =>
    if unit = ascii '\\' then some (.escaped, [])
    else if isControl unit then none
    else some (.plain, [unit])
  | .escaped, unit =>
    if unit = ascii 'u' then some (.unicode 4 0, [])
    else (shortEscape unit).map fun decoded => (.plain, [decoded])
  | .unicode missing value, unit => (hexDigit unit).map fun digit =>
    if missing ≤ 1 then (.plain, [16 * value + digit]) else (.unicode (missing - 1) (16 * value + digit), [])

/-- What the rest of a literal decodes to, and the text behind its closing quote. -/
def read : JsonLiteral → List UInt16 → Option (List UInt16 × List UInt16)
  | _, [] => none
  | state, unit :: rest =>
    if state = .plain ∧ unit = ascii '"' then some ([], rest)
    else (state.step unit).bind fun next => (read next.1 rest).map fun result => (next.2 ++ result.1, result.2)

theorem read_cons {state : JsonLiteral} {unit : UInt16} (inside : ¬ (state = .plain ∧ unit = ascii '"'))
    (rest : List UInt16) :
    state.read (unit :: rest) =
      (state.step unit).bind fun next => (read next.1 rest).map fun result => (next.2 ++ result.1, result.2) := by
  rw [read, if_neg inside]

@[simp] theorem read_close (rest : List UInt16) : read .plain (ascii '"' :: rest) = some ([], rest) := by
  rw [read, if_pos ⟨rfl, rfl⟩]

/-- An ordinary character stands for itself. -/
theorem read_plain {unit : UInt16} (noQuote : unit ≠ ascii '"') (noBackslash : unit ≠ ascii '\\')
    (rest : List UInt16) :
    read .plain (unit :: rest) = if isControl unit then none
      else (read .plain rest).map fun result => (unit :: result.1, result.2) := by
  rw [read_cons (fun closing => noQuote closing.2), step, if_neg noBackslash]
  split_ifs
  · rfl
  · rfl

/-- A backslash and a letter stand for one character. -/
theorem read_shortEscape {letter unit : UInt16} (escape : shortEscape letter = some unit) (rest : List UInt16) :
    read .plain (ascii '\\' :: letter :: rest) = (read .plain rest).map fun result => (unit :: result.1, result.2) := by
  have noUnicode : letter ≠ ascii 'u' := by
    rintro rfl
    have undefined : shortEscape (ascii 'u') = none := by decide
    simp [undefined] at escape
  rw [read_cons (by decide), step, if_pos rfl, Option.bind_some, read_cons (by simp), step, if_neg noUnicode, escape]
  simp [Function.comp_def]

end JsonLiteral

/-- The string that a text consisting of one literal stands for. -/
def jsonLiteral : List UInt16 → Option (List UInt16)
  | [] => none
  | unit :: rest =>
    if unit = ascii '"' then
      (JsonLiteral.read .plain rest).bind fun result => if result.2 = [] then some result.1 else none
    else none

def isAsciiDigit (unit : UInt16) : Bool := ascii '0' ≤ unit && unit ≤ ascii '9'

/-- The last part of a number that has been read. -/
inductive JsonNumber where
  | minus
  | zero
  | integer
  | point
  | fraction
  | exponent
  | sign
  | power
deriving DecidableEq, Repr

namespace JsonNumber

/-- What a digit leads to, where one more of the same part may follow. -/
def digit (next : JsonNumber) (unit : UInt16) : Option JsonNumber := if isAsciiDigit unit then some next else none

def exponentMark (unit : UInt16) : Option JsonNumber :=
  if unit = ascii 'e' ∨ unit = ascii 'E' then some .exponent else none

def pointMark (unit : UInt16) : Option JsonNumber :=
  if unit = ascii '.' then some .point else exponentMark unit

def step : JsonNumber → UInt16 → Option JsonNumber
  | .minus, unit => if unit = ascii '0' then some .zero else digit .integer unit
  | .zero, unit => pointMark unit
  | .integer, unit => (digit .integer unit).or (pointMark unit)
  | .point, unit => digit .fraction unit
  | .fraction, unit => (digit .fraction unit).or (exponentMark unit)
  | .exponent, unit => if unit = ascii '+' ∨ unit = ascii '-' then some .sign else digit .power unit
  | .sign, unit => digit .power unit
  | .power, unit => digit .power unit

/-- A number begins with a minus sign or a digit. -/
def start (unit : UInt16) : Option JsonNumber :=
  if unit = ascii '-' then some .minus else step .minus unit

def complete (part : JsonNumber) : Bool := part = .zero || part = .integer || part = .fraction || part = .power

end JsonNumber

def isJsonNumber : List UInt16 → Bool
  | [] => false
  | unit :: rest => ((JsonNumber.start unit).bind fun part => rest.foldlM JsonNumber.step part).any JsonNumber.complete

inductive JsonEvent where
  | beginObject
  | endObject
  | beginArray
  | endArray
  | name (text : List UInt16)
  | string (text : List UInt16)
  | number (written : List UInt16)
  | constant (written : List Char)
deriving DecidableEq, Repr

inductive JsonContainer where
  | object
  | array
deriving DecidableEq, Repr

/-- What may come next; inside a token, what of it has been read. -/
inductive JsonMode where
  | value
  /-- Behind the bracket that opens an array. -/
  | firstElement
  /-- Behind the brace that opens an object. -/
  | firstMember
  | memberName
  | colon
  /-- Behind a complete value. -/
  | separator
  | quoted (isName : Bool) (literal : JsonLiteral) (decoded : List UInt16)
  | number (part : JsonNumber) (written : List UInt16)
  | constant (missing whole : List Char)
deriving DecidableEq, Repr

structure JsonReader where
  /-- The containers that are open, the innermost first. -/
  inside : List JsonContainer := []
  mode : JsonMode := .value
deriving DecidableEq, Repr

namespace JsonReader

def isSpace (unit : UInt16) : Bool := unit = ascii ' ' || unit = ascii '\t' || unit = ascii '\n' || unit = ascii '\r'

/-- The first unit of a value. -/
def beginValue (inside : List JsonContainer) (unit : UInt16) : Option (JsonReader × List JsonEvent) :=
  if unit = ascii '\x7b' then some (⟨.object :: inside, .firstMember⟩, [.beginObject])
  else if unit = ascii '[' then some (⟨.array :: inside, .firstElement⟩, [.beginArray])
  else if unit = ascii '"' then some (⟨inside, .quoted false .plain []⟩, [])
  else if unit = ascii 't' then some (⟨inside, .constant "rue".toList "true".toList⟩, [])
  else if unit = ascii 'f' then some (⟨inside, .constant "alse".toList "false".toList⟩, [])
  else if unit = ascii 'n' then some (⟨inside, .constant "ull".toList "null".toList⟩, [])
  else (JsonNumber.start unit).map fun part => (⟨inside, .number part [unit]⟩, [])

def beginName (inside : List JsonContainer) (unit : UInt16) : Option (JsonReader × List JsonEvent) :=
  if unit = ascii '"' then some (⟨inside, .quoted true .plain []⟩, []) else none

/-- A unit behind a complete value: white space, a comma, or the end of the innermost container. -/
def separate (inside : List JsonContainer) (unit : UInt16) : Option (JsonReader × List JsonEvent) :=
  if isSpace unit then some (⟨inside, .separator⟩, [])
  else
    match inside with
    | [] => none
    | .object :: outer =>
      if unit = ascii ',' then some (⟨inside, .memberName⟩, [])
      else if unit = ascii '\x7d' then some (⟨outer, .separator⟩, [.endObject])
      else none
    | .array :: outer =>
      if unit = ascii ',' then some (⟨inside, .value⟩, [])
      else if unit = ascii ']' then some (⟨outer, .separator⟩, [.endArray])
      else none

/-- What follows a literal. -/
def behindLiteral (isName : Bool) : JsonMode := if isName then .colon else .separator

def literalEvent (isName : Bool) (text : List UInt16) : JsonEvent := if isName then .name text else .string text

def step (r : JsonReader) (unit : UInt16) : Option (JsonReader × List JsonEvent) :=
  match r.mode with
  | .quoted isName literal decoded =>
    if literal = .plain ∧ unit = ascii '"' then
      some (⟨r.inside, behindLiteral isName⟩, [literalEvent isName decoded])
    else (literal.step unit).map fun next => (⟨r.inside, .quoted isName next.1 (decoded ++ next.2)⟩, [])
  | .number part written =>
    match part.step unit with
    | some next => some (⟨r.inside, .number next (written ++ [unit])⟩, [])
    | none =>
      -- a number has no end mark: it ends in front of the first unit that cannot continue it
      if part.complete then (separate r.inside unit).map fun next => (next.1, .number written :: next.2) else none
  | .constant missing whole =>
    if (missing.head?.map ascii) = some unit then
      if missing.tail = [] then some (⟨r.inside, .separator⟩, [.constant whole])
      else some (⟨r.inside, .constant missing.tail whole⟩, [])
    else none
  | .separator => separate r.inside unit
  | .value => if isSpace unit then some (r, []) else beginValue r.inside unit
  | .firstElement =>
    if isSpace unit then some (r, [])
    else if unit = ascii ']' then some (⟨r.inside.tail, .separator⟩, [.endArray])
    else beginValue r.inside unit
  | .firstMember =>
    if isSpace unit then some (r, [])
    else if unit = ascii '\x7d' then some (⟨r.inside.tail, .separator⟩, [.endObject])
    else beginName r.inside unit
  | .memberName => if isSpace unit then some (r, []) else beginName r.inside unit
  | .colon =>
    if isSpace unit then some (r, [])
    else if unit = ascii ':' then some (⟨r.inside, .value⟩, [])
    else none

/-- The end of the text. -/
def finish (r : JsonReader) : Option (List JsonEvent) :=
  match r.inside, r.mode with
  | [], .separator => some []
  | [], .number part written => if part.complete then some [.number written] else none
  | _, _ => none

def events : JsonReader → List UInt16 → Option (List JsonEvent)
  | r, [] => r.finish
  | r, unit :: rest => (r.step unit).bind fun next => (events next.1 rest).map (next.2 ++ ·)

theorem events_cons (r : JsonReader) (unit : UInt16) (rest : List UInt16) :
    r.events (unit :: rest) = (r.step unit).bind fun next => (events next.1 rest).map (next.2 ++ ·) := rfl

/-- Where a part of a document takes the reader, with the report on it. -/
def advance : JsonReader → List UInt16 → Option (JsonReader × List JsonEvent)
  | r, [] => some (r, [])
  | r, unit :: rest =>
    (r.step unit).bind fun next => (advance next.1 rest).map fun last => (last.1, next.2 ++ last.2)

theorem events_append (r : JsonReader) (front rest : List UInt16) :
    r.events (front ++ rest) = (r.advance front).bind fun next => (events next.1 rest).map (next.2 ++ ·) := by
  induction front generalizing r with
  | nil => simp [advance]
  | cons unit front ih =>
    rw [List.cons_append, events_cons, advance, Option.bind_assoc]
    congr 1
    funext next
    rw [ih, Option.map_bind, Option.bind_map]
    congr 1
    funext last
    simp [Function.comp_def]

/-- Inside a literal the document is read as the literal is. -/
theorem events_quoted (inside : List JsonContainer) (isName : Bool) (literal : JsonLiteral)
    (decoded text : List UInt16) :
    events ⟨inside, .quoted isName literal decoded⟩ text = (literal.read text).bind fun result =>
      (events ⟨inside, behindLiteral isName⟩ result.2).map (literalEvent isName (decoded ++ result.1) :: ·) := by
  induction text generalizing literal decoded with
  | nil => cases inside <;> rfl
  | cons unit rest ih =>
    rw [events_cons, JsonLiteral.read, step]
    dsimp only
    split_ifs with closing
    · simp
    · rw [Option.bind_map, Option.bind_assoc]
      congr 1
      funext next
      simp [ih, Option.bind_map]

/-- A number in front of a unit that cannot continue it. -/
theorem events_number (inside : List JsonContainer) {part last : JsonNumber} (written : List UInt16)
    {digits : List UInt16} (reads : digits.foldlM JsonNumber.step part = some last) (complete : last.complete = true)
    {stop : UInt16} (stops : ∀ part, JsonNumber.step part stop = none) (rest : List UInt16) :
    events ⟨inside, .number part written⟩ (digits ++ stop :: rest) =
      (events ⟨inside, .separator⟩ (stop :: rest)).map (.number (written ++ digits) :: ·) := by
  induction digits generalizing part written with
  | nil =>
    obtain rfl : part = last := Option.some.inj reads
    rw [List.nil_append, events_cons, events_cons, step, step]
    simp only [stops, complete, if_true, List.append_nil]
    rw [Option.bind_map, Option.map_bind]
    congr 1
    funext next
    simp [Function.comp_def]
  | cons unit digits ih =>
    obtain ⟨next, stepped, reads⟩ := Option.bind_eq_some_iff.mp reads
    rw [List.cons_append, events_cons, step]
    simp only [stepped, Option.bind_some]
    rw [ih _ reads]
    simp [Function.comp_def]

/-- The first unit of a number begins no other value. -/
private theorem step_start (inside : List JsonContainer) {unit : UInt16} {part : JsonNumber}
    (started : JsonNumber.start unit = some part) :
    step ⟨inside, .value⟩ unit = some (⟨inside, .number part [unit]⟩, []) := by
  have other (c : Char) (begins : JsonNumber.start (ascii c) = none) : unit ≠ ascii c := by
    rintro rfl
    simp [begins] at started
  have noSpace : isSpace unit = false := by
    simp only [isSpace, Bool.or_eq_false_iff, decide_eq_false_iff_not]
    exact ⟨⟨⟨other _ (by decide), other _ (by decide)⟩, other _ (by decide)⟩, other _ (by decide)⟩
  simp only [step, noSpace, Bool.false_eq_true, if_false]
  rw [beginValue, if_neg (other _ (by decide)), if_neg (other _ (by decide)), if_neg (other _ (by decide)),
    if_neg (other _ (by decide)), if_neg (other _ (by decide)), if_neg (other _ (by decide)), started]
  rfl

theorem events_value_number (inside : List JsonContainer) {digits : List UInt16} (number : isJsonNumber digits = true)
    {stop : UInt16} (stops : ∀ part, JsonNumber.step part stop = none) (rest : List UInt16) :
    events ⟨inside, .value⟩ (digits ++ stop :: rest) =
      (events ⟨inside, .separator⟩ (stop :: rest)).map (.number digits :: ·) := by
  cases digits with
  | nil => simp [isJsonNumber] at number
  | cons unit digits =>
    obtain ⟨last, reads, complete⟩ := (Option.any_eq_true _ _).mp number
    obtain ⟨part, started, reads⟩ := Option.bind_eq_some_iff.mp reads
    rw [List.cons_append, events_cons, step_start inside started, Option.bind_some,
      events_number inside [unit] reads complete stops]
    simp [Function.comp_def]

end JsonReader

/-- The report on a complete document, unless the text is none. -/
def jsonEvents (text : List UInt16) : Option (List JsonEvent) := JsonReader.events {} text

end GestureSuite.Text
