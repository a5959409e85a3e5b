import PropertyGraph.Text.CaseTable

/-!
# Upper and lower case

The full case mappings of the character database.  Upper-casing works letter by letter;
lower-casing does too, except that a capital sigma at the end of a word takes its final
form: `ΣΑΣ` becomes `σας`.
-/

namespace PropertyGraph.Text

/-- The lower-case form of a character on its own.  Only the dotted capital `İ` has two
characters. -/
def lowerChar (c : Char) : List Char :=
  match imageIn lowerRuns c.toNat with
  | some n => [Char.ofNat n]
  | none => if c = 'İ' then ['i', '\u0307'] else [c]

/-- The upper-case form of a character. -/
def upperChar (c : Char) : List Char :=
  match imageIn upperRuns c.toNat with
  | some n => [Char.ofNat n]
  | none =>
    match upperExpansions.lookup c.toNat with
    | some ns => ns.map Char.ofNat
    | none => [c]

/-- Whether the nearest character that is not ignorable is a cased letter. -/
def meetsCased (cs : List Char) : Bool :=
  match cs.dropWhile (inSpans ignorableSpans) with
  | [] => false
  | c :: _ => inSpans casedSpans c

/-- Lower-cases the characters of `rest`, given those before them in reverse.  A capital
sigma is final when it follows a cased letter and none follows it. -/
def lowerAfter (before : List Char) : List Char → List Char
  | [] => []
  | c :: rest =>
    let form :=
      if c = 'Σ' then
        -- The characters before are in reverse, so both sides are looked at outwards.
        if meetsCased before && !meetsCased rest then ['ς'] else ['σ']
      else lowerChar c
    form ++ lowerAfter (c :: before) rest

/-- The lower-case form of a text. -/
def lower (s : String) : String := String.ofList (lowerAfter [] s.toList)

/-- The upper-case form of a text. -/
def upper (s : String) : String := String.ofList (s.toList.flatMap upperChar)

end PropertyGraph.Text
