import PolicyOperator.Log.Event
import PolicyOperator.Log.Pattern

/-!
# Directives

A directive says up to which level events are written: all events, or those of a target, within a
span, or with certain fields. `LogDirective.read` reads one: `target[span{field=value}]=level`, of
which each part may be missing.
-/

namespace PolicyOperator

structure LogDirective where
  level : LogLevel := .trace
  /-- What the event's target has to start with. -/
  target : Option String := none
  /-- The directive speaks only of what happens within a span of this name. -/
  span : Option String := none
  /-- The fields that the event has to have, and whether a value is asked for. -/
  fields : List (String × Bool) := []
  deriving DecidableEq, Repr

namespace LogDirective

/-- Why a text is no directive. -/
inductive Fault where
  | malformed
  /-- No level has this name. -/
  | level
  /-- The value of a field is neither a number nor a pattern. -/
  | value
  /-- A part would start or end inside a character. -/
  | torn
  deriving DecidableEq, Repr

def Fault.message : Fault → String
  | malformed => "invalid filter directive"
  | level => "error parsing level filter: expected one of \"off\", \"error\", \"warn\", " ++
      "\"info\", \"debug\", \"trace\", or a number 0-5"
  | value => "invalid field filter: error building NFA"
  | torn => "a part of the directive would start or end inside a character"

/-! ## Parts of a text by their bytes -/

/-- The text from a byte on, unless that lies inside a character. -/
def dropBytes? : Nat → List Char → Option (List Char)
  | 0, cs => some cs
  | _, [] => none
  | n, c :: cs => if c.utf8Size ≤ n then dropBytes? (n - c.utf8Size) cs else none

/-- The text up to a byte, unless that lies inside a character. -/
def takeBytes? : Nat → List Char → Option (List Char)
  | 0, _ => some []
  | _, [] => none
  | n, c :: cs =>
    if c.utf8Size ≤ n then (takeBytes? (n - c.utf8Size) cs).map (c :: ·) else none

/-- Nothing is lost where a text is cut. -/
theorem append_eq_of_bytes {n : Nat} {cs front back : List Char}
    (hf : takeBytes? n cs = some front) (hb : dropBytes? n cs = some back) :
    front ++ back = cs := by
  induction cs generalizing n front with
  | nil => cases n <;> simp_all [takeBytes?, dropBytes?]
  | cons c cs ih =>
    cases n with
    | zero => simp_all [takeBytes?, dropBytes?]
    | succ n =>
      by_cases hc : c.utf8Size ≤ n + 1
      · simp only [takeBytes?, hc, if_true, Option.map_eq_some_iff] at hf
        simp only [dropBytes?, hc, if_true] at hb
        obtain ⟨rest, hr, rfl⟩ := hf
        rw [List.cons_append, ih hr hb]
      · simp [takeBytes?, hc] at hf

/-- The text from one byte to another. -/
def slice (text : List Char) (first last : Nat) : Except Fault String :=
  match (dropBytes? first text).bind (takeBytes? (last - first)) with
  | some cs => .ok (String.ofList cs)
  | none => .error .torn

/-! ## Fields and levels -/

/-- Digits, a fraction and an exponent without a sign in front; the text may also name what is
infinite or no number. -/
def isUnsignedNumber (cs : List Char) : Bool :=
  let whole := Text.spanDigits cs
  let (fraction, rest) := match whole.2 with
    | '.' :: rest => Text.spanDigits rest
    | rest => ([], rest)
  let exponent := match rest with
    | [] => true
    | e :: rest =>
      let digits := match rest with
        | '+' :: rest | '-' :: rest => rest
        | rest => rest
      (e == 'e' || e == 'E') && !digits.isEmpty && digits.all Char.isDigit
  ["inf", "infinity", "nan"].contains (String.ofList (cs.map Char.toLower)) ||
    (!(whole.1.isEmpty && fraction.isEmpty) && exponent)

/-- A field can be asked to have this value. Numbers are patterns too, but for those with a plus in
front. -/
def isValue (cs : List Char) : Bool :=
  match cs with
  | '+' :: rest => isUnsignedNumber rest
  | cs => Pattern.isPattern cs

/-- A name, and perhaps a value up to the next equals sign. -/
def field (s : String) : Except Fault (String × Bool) :=
  let cs := s.toList
  let name := String.ofList (cs.takeWhile (· ≠ '='))
  match cs.dropWhile (· ≠ '=') with
  | [] => if name.isEmpty then .error .malformed else .ok (name, false)
  | _ :: rest => if isValue (rest.takeWhile (· ≠ '=')) then .ok (name, true) else .error .value

/-- The level at the end of a directive; all when there is none. -/
def levelAtEnd (s : String) : Except Fault LogLevel :=
  if s.isEmpty then .ok .trace
  else
    match LogLevel.ofText? s with
    | some l => .ok l
    | none => .error .level

/-- A directive of a single word: a level for everything, or a target. -/
def ofWord (s : String) : LogDirective :=
  match LogLevel.ofText? s with
  | some l => { level := l }
  | none => { target := some s }

/-! ## Reading -/

/-- Where in a directive a reader stands, with the byte at which the part at hand starts. -/
inductive Place where
  | start
  /-- Within the first word. -/
  | word
  | span (first : Nat)
  | field (first : Nat)
  /-- After the fields. -/
  | fieldsEnd
  /-- After the bracket that closes the span. -/
  | spanEnd
  | level (first : Nat)
  deriving DecidableEq, Repr

/-- The characters that a directive may start with, apart from a bracket. -/
def canStart (c : Char) : Bool := c == '-' || c == ':' || c == '_' || Text.isLetterOrNumber c

/-- What is read so far. -/
structure Reading where
  directive : LogDirective := {}
  place : Place := .start
  /-- The byte at which the next character stands. -/
  byte : Nat := 0
  deriving DecidableEq, Repr

/-- Takes in a character. Parts are cut out of `text`. -/
def Reading.step (text : List Char) (r : Reading) (c : Char) : Except Fault Reading := do
  let d := r.directive
  let next := r.byte + c.utf8Size
  let (directive, place) ← match r.place, c with
    | .start, '[' => pure (d, .span next)
    | .start, c => if canStart c then pure (d, .word) else .error .malformed
    | .word, '=' => pure ({ d with target := some (← slice text 0 r.byte) }, .level next)
    | .word, '[' => pure ({ d with target := some (← slice text 0 r.byte) }, .span next)
    | .word, _ => pure (d, .word)
    | .span first, ']' => pure ({ d with span := some (← slice text first r.byte) }, .spanEnd)
    | .span first, '\x7b' =>
      let name ← slice text first r.byte
      pure ({ d with span := if name.isEmpty then none else some name }, .field next)
    | .span first, _ => pure (d, .span first)
    | .field first, '\x7d' =>
      let part ← slice text first r.byte
      if part.isEmpty then .error .malformed
      else pure ({ d with fields := d.fields ++ [← LogDirective.field part] }, .fieldsEnd)
    | .field first, _ => pure (d, .field first)
    | .fieldsEnd, ']' => pure (d, .spanEnd)
    | .spanEnd, '=' => pure (d, .level next)
    | .level first, _ => pure (d, .level first)
    | .fieldsEnd, _ | .spanEnd, _ => .error .malformed
  return { directive, place, byte := next }

/-- The directive that a finished reading gives. -/
def Reading.finish (text : List Char) (r : Reading) : Except Fault LogDirective := do
  match r.place with
  | .word => return ofWord (String.ofList text)
  | .spanEnd => return r.directive
  | .level first =>
    match dropBytes? first text with
    | none => .error .torn
    | some cs => return { r.directive with level := ← levelAtEnd (String.ofList cs) }
  | _ => .error .malformed

/-- Reads a directive. Its parts are found without the blanks around it, but cut out of the text
with the blanks in front. -/
def read (s : String) : Except Fault LogDirective := do
  let reading ← (Text.trim s.toList).foldlM (Reading.step s.toList) {}
  reading.finish s.toList

/-! ## What a directive speaks of -/

/-- The directive can be told from the event alone. -/
def isStatic (d : LogDirective) : Bool := d.span.isNone && d.fields.all fun f => !f.2

/-- The directive speaks of an event. -/
def concerns (d : LogDirective) (e : LogEvent) : Bool :=
  d.isStatic && d.target.all (fun t => t.isPrefixOf e.target) &&
    d.fields.all fun f => e.fieldNames.contains f.1

/-- The names of the fields. -/
def fieldNames (d : LogDirective) : List String := d.fields.map Prod.fst

/-- The length of the target, one more than that if there is one. -/
def targetSize (d : LogDirective) : Nat :=
  match d.target with
  | some t => t.utf8ByteSize + 1
  | none => 0

/-- The second directive is at least as specific as the first: the longer target is, then the one
with more fields; of directives that are alike in this the one whose target and fields come later
in the order of texts. -/
def notMoreSpecific (a b : LogDirective) : Bool :=
  if a.targetSize ≠ b.targetSize then a.targetSize < b.targetSize
  else if a.fields.length ≠ b.fields.length then a.fields.length < b.fields.length
  else if a.target ≠ b.target then a.target.getD "" < b.target.getD ""
  else !b.fieldNames.lex a.fieldNames

example : (read "a[s\x7bf\x7d]=info").toOption =
    some ⟨.info, some "a", some "s", [("f", false)]⟩ := by
  decide +kernel

example : (read " [s]=off").toOption = none := by decide +kernel

end LogDirective

end PolicyOperator
