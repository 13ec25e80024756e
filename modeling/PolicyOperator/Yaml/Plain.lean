import PolicyOperator.Number.Binary64
import PolicyOperator.Text.Scan

/-!
# Plain scalars that are no text

Without quotes, some words would be read back as null, a truth value or a number. `readsAsOther`
recognises them, together with digits after a leading zero, which readers disagree on.
-/

namespace PolicyOperator.Yaml

def isNullWord (cs : List Char) : Bool :=
  [['~'], "null".toList, "Null".toList, "NULL".toList].contains cs

def isBoolWord (cs : List Char) : Bool :=
  (["true", "True", "TRUE", "false", "False", "FALSE"].map String.toList).contains cs

/-- A zero and more digits, perhaps signed. -/
def isZeroPadded (cs : List Char) : Bool :=
  let cs := match cs with
    | '-' :: rest | '+' :: rest => rest
    | cs => cs
  match cs with
  | '0' :: d :: rest => (d :: rest).all fun c => (Text.digit? c).isSome
  | _ => false

/-- A number in base two, eight or sixteen with its mark. -/
def based? : List Char → Option Nat
  | '0' :: 'x' :: rest => Text.numeral? 16 rest
  | '0' :: 'o' :: rest => Text.numeral? 8 rest
  | '0' :: 'b' :: rest => Text.numeral? 2 rest
  | _ => none

/-- A whole number of at most 128 bits. -/
def isWhole (cs : List Char) : Bool :=
  let below (limit : Nat) (n : Option Nat) : Bool := (n.map (decide <| · < limit)).getD false
  let decimal (cs : List Char) := if isZeroPadded cs then none else Text.numeral? 10 cs
  match cs with
  | '-' :: rest =>
    below (Nat.pow 2 127 + 1) (based? rest) || below (Nat.pow 2 127 + 1) (decimal rest)
  | '+' :: rest => below (Nat.pow 2 128) (based? rest) || below (Nat.pow 2 128) (decimal rest)
  | rest => below (Nat.pow 2 128) (based? rest) || below (Nat.pow 2 128) (decimal rest)

/-- A decimal exponent; zero at the end of the text. -/
def exponent? : List Char → Option Int
  | [] => some 0
  | c :: rest =>
    if c = 'e' ∨ c = 'E' then
      match rest with
      | '-' :: rest => (Text.numeral? 10 rest).map fun n => -(n : Int)
      | '+' :: rest => (Text.numeral? 10 rest).map fun n => (n : Int)
      | rest => (Text.numeral? 10 rest).map fun n => (n : Int)
    else none

/-- A decimal number `digits · 10 ^ place`, perhaps with a fraction and an exponent. -/
def decimal? (cs : List Char) : Option (Nat × Int) := do
  let (whole, rest) := Text.spanDigits cs
  let (places, rest) := match rest with
    | '.' :: rest => Text.spanDigits rest
    | rest => ([], rest)
  let n ← Text.numeral? 10 (whole ++ places)
  return (n, (← exponent? rest) - places.length)

/-- A decimal number that does not exceed the doubles. -/
def isDecimal (cs : List Char) : Bool :=
  match decimal? cs with
  | none => false
  | some (n, place) =>
    let magnitude := ((toString n).length : Int) + place
    if n = 0 ∨ magnitude < -400 then true
    else if 309 < magnitude then false
    else
      let (num, den) := Binary64.scale 10 place n 1
      (Binary64.ofRatio false num den).isSome

/-- A number with a fraction or exponent, an infinity, or not a number. -/
def isFraction (cs : List Char) : Bool :=
  let infinities := [".inf", ".Inf", ".INF"].map String.toList
  let others := ["-.inf", "-.Inf", "-.INF", ".nan", ".NaN", ".NAN"].map String.toList
  match cs with
  | '+' :: rest => infinities.contains rest || isDecimal rest
  | '-' :: rest => others.contains cs || isDecimal rest
  | cs => infinities.contains cs || others.contains cs || isDecimal cs

/-- Without quotes the text would not be read back as this text. -/
def readsAsOther (cs : List Char) : Bool :=
  cs.isEmpty || isNullWord cs || isBoolWord cs || isZeroPadded cs || isWhole cs || isFraction cs

example : readsAsOther "1e3".toList && readsAsOther "007".toList && readsAsOther "-0x1F".toList &&
    readsAsOther "+.inf".toList && !readsAsOther "yes".toList && !readsAsOther "1.2.3".toList &&
    !readsAsOther "0x".toList = true := by
  decide +kernel

end PolicyOperator.Yaml
