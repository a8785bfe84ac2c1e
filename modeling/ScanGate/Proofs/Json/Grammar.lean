import ScanGate.Json.Reader

/-! Which texts spell which value, said without a reader. A value has many spellings:
blanks may stand between any two tokens, and a character of a string may be written as
itself or by an escape. A number has no spelling but its own literal. -/
namespace ScanGate.Json

def Blanks (cs : List Char) : Prop := ∀ c ∈ cs, isSpace c = true

/-! ### Numbers -/

/-- One or more digits. -/
def Digits (cs : List Char) : Prop := cs ≠ [] ∧ ∀ c ∈ cs, c.isDigit = true

/-- Before the point: a zero alone, or digits that start with another. -/
inductive Whole : List Char → Prop
  | zero : Whole ['0']
  | digits {cs : List Char} (h : Digits cs) (hz : cs.head? ≠ some '0') : Whole cs

inductive Fraction : List Char → Prop
  | none : Fraction []
  | point {cs : List Char} (h : Digits cs) : Fraction ('.' :: cs)

inductive Exponent : List Char → Prop
  | none : Exponent []
  | plain {e : Char} {cs : List Char} (he : e = 'e' ∨ e = 'E') (h : Digits cs) :
      Exponent (e :: cs)
  | signed {e s : Char} {cs : List Char} (he : e = 'e' ∨ e = 'E') (hs : s = '+' ∨ s = '-')
      (h : Digits cs) : Exponent (e :: s :: cs)

inductive Numeral : List Char → Prop
  | mk {sign whole fraction exponent : List Char} (hs : sign = [] ∨ sign = ['-'])
      (hw : Whole whole) (hf : Fraction fraction) (he : Exponent exponent) :
      Numeral (sign ++ (whole ++ (fraction ++ exponent)))

/-! ### Strings -/

/-- A piece of a string is a character as it is, an escape of one letter, or an escape of
four digits. -/
inductive Piece.Spelling : Piece → List Char → Prop
  | plain {c : Char} (hq : c ≠ '"') (hb : c ≠ '\\') (hc : ¬ c.toNat < 0x20) :
      Spelling (.plain c) [c]
  | letter {d c : Char} (h : simpleEscape d = some c) : Spelling (.plain c) ['\\', d]
  | unit {a b c d : Char} {n : Nat} (h : hexUnit a b c d = some n) :
      Spelling (.ofUnit n) ['\\', 'u', a, b, c, d]

inductive Pieces : List Piece → List Char → Prop
  | nil : Pieces [] []
  | cons {p : Piece} {ps : List Piece} {cs rest : List Char} (h : p.Spelling cs)
      (hs : Pieces ps rest) : Pieces (p :: ps) (cs ++ rest)

/-- A string in its quotes. Its pieces join to the text, or to none where half of a
surrogate pair is left alone. -/
inductive Quoted : Option String → List Char → Prop
  | mk {ps : List Piece} {cs : List Char} (h : Pieces ps cs) :
      Quoted ((Piece.join ps).map String.ofList) ('"' :: (cs ++ ['"']))

/-! ### Values -/

mutual

inductive Spelling : Json → List Char → Prop
  | nullWord : Spelling null ['n', 'u', 'l', 'l']
  | trueWord : Spelling (bool true) ['t', 'r', 'u', 'e']
  | falseWord : Spelling (bool false) ['f', 'a', 'l', 's', 'e']
  | number {literal : String} (h : Numeral literal.toList) :
      Spelling (number literal) literal.toList
  | string {text : Option String} {cs : List Char} (h : Quoted text cs) :
      Spelling (string text) cs
  | noItems {blanks : List Char} (hb : Blanks blanks) :
      Spelling (array []) ('[' :: (blanks ++ [']']))
  | array {items : List Json} {blanks cs : List Char} (hb : Blanks blanks)
      (h : Items items cs) : Spelling (array items) ('[' :: (blanks ++ cs))
  | noMembers {blanks : List Char} (hb : Blanks blanks) :
      Spelling (object []) ('\x7b' :: (blanks ++ ['\x7d']))
  | object {members : List (Option String × Json)} {blanks cs : List Char} (hb : Blanks blanks)
      (h : Members members cs) : Spelling (object members) ('\x7b' :: (blanks ++ cs))

/-- One or more items, through the closing bracket. -/
inductive Items : List Json → List Char → Prop
  | last {item : Json} {cs after : List Char} (h : Spelling item cs) (ha : Blanks after) :
      Items [item] (cs ++ (after ++ [']']))
  | next {item : Json} {items : List Json} {cs after before rest : List Char}
      (h : Spelling item cs) (ha : Blanks after) (hb : Blanks before) (hs : Items items rest) :
      Items (item :: items) (cs ++ (after ++ ',' :: (before ++ rest)))

/-- One or more members, through the closing brace. -/
inductive Members : List (Option String × Json) → List Char → Prop
  | last {key : Option String} {value : Json} {name around before cs after : List Char}
      (hk : Quoted key name) (hc : Blanks around) (hb : Blanks before) (h : Spelling value cs)
      (ha : Blanks after) :
      Members [(key, value)] (name ++ (around ++ ':' :: (before ++ (cs ++ (after ++ ['\x7d'])))))
  | next {key : Option String} {value : Json} {members : List (Option String × Json)}
      {name around before cs after blanks rest : List Char}
      (hk : Quoted key name) (hc : Blanks around) (hb : Blanks before) (h : Spelling value cs)
      (ha : Blanks after) (hn : Blanks blanks) (hs : Members members rest) :
      Members ((key, value) :: members)
        (name ++ (around ++ ':' :: (before ++ (cs ++ (after ++ ',' :: (blanks ++ rest))))))

end

/-- The text is one value with blanks around it. -/
inductive Spells (text : String) (value : Json) : Prop
  | mk {before cs after : List Char} (hb : Blanks before) (h : Spelling value cs)
      (ha : Blanks after) (ht : text.toList = before ++ (cs ++ after))

end ScanGate.Json
