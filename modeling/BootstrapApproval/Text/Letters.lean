/-! # Letter case and blanks

Case folding as far as it can decide whether a text equals an ASCII name, and the characters that
count as blank around a setting and inside a settings file.
-/

namespace BootstrapApproval.Letters

/-- Outside ASCII, the characters whose capitals are several ASCII letters. -/
def ligatures : List (Char × String) :=
  [('\u00DF', "SS"), ('\uFB00', "FF"), ('\uFB01', "FI"), ('\uFB02', "FL"), ('\uFB03', "FFI"),
   ('\uFB04', "FFL"), ('\uFB05', "ST"), ('\uFB06', "ST")]

/-- Upper case, as far as the result can be ASCII letters. Outside ASCII only the dotless `ı` and
the long `ſ` have an ASCII capital, and only ligatures have several. -/
def upperChar (c : Char) : List Char :=
  match ligatures.lookup c with
  | some capitals => capitals.toList
  | none => [if c = '\u0131' then 'I' else if c = '\u017F' then 'S' else c.toUpper]

/-- Lower case, as far as the result can be an ASCII letter. Outside ASCII only the Kelvin sign has
an ASCII small letter. -/
def lowerChar (c : Char) : Char := if c = '\u212A' then 'k' else c.toLower

def upper (s : String) : String := String.ofList (s.toList.flatMap upperChar)

def lower (s : String) : String := String.ofList (s.toList.map lowerChar)

def asciiLower (s : String) : String := String.ofList (s.toList.map Char.toLower)

def isBlank (c : Char) : Bool :=
  let n := c.toNat
  (9 ≤ n && n ≤ 13) || n == 32 || n == 0x85 || n == 0xA0 || n == 0x1680
    || (0x2000 ≤ n && n ≤ 0x200A) || n == 0x2028 || n == 0x2029 || n == 0x202F || n == 0x205F
    || n == 0x3000

/-- The characters with the white-space property and the four information separators. -/
def isGap (c : Char) : Bool := isBlank c || (0x1C ≤ c.toNat && c.toNat ≤ 0x1F)

end BootstrapApproval.Letters
