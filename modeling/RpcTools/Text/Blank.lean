/-
Module: RpcTools.Text.Blank
Purpose: White space, as the Unicode property `White_Space` lists it, and the removal
  of it at the ends of a text.
Main exports: isBlank, trimEnd, trim, allBlank
-/
namespace RpcTools.Text

/-- The characters with the property `White_Space`. -/
def isBlank (character : Char) : Bool :=
  let code := character.toNat
  (0x09 ≤ code && code ≤ 0x0D) || code == 0x20 || code == 0x85 || code == 0xA0 ||
    code == 0x1680 || (0x2000 ≤ code && code ≤ 0x200A) || code == 0x2028 ||
    code == 0x2029 || code == 0x202F || code == 0x205F || code == 0x3000

/-- The characters without the blanks at their start. -/
def dropBlanks (characters : List Char) : List Char :=
  characters.dropWhile isBlank

/-- The characters without the blanks at their end. -/
def dropBlanksEnd (characters : List Char) : List Char :=
  (dropBlanks characters.reverse).reverse

/-- The text without the blanks at its end. -/
def trimEnd (text : String) : String :=
  String.ofList (dropBlanksEnd text.toList)

/-- The text without the blanks at either end. -/
def trim (text : String) : String :=
  String.ofList (dropBlanksEnd (dropBlanks text.toList))

/-- Whether a text holds nothing but blanks. -/
def allBlank (text : String) : Bool :=
  text.toList.all isBlank

/-! ### Small laws -/

@[simp] theorem toList_trimEnd (text : String) :
    (trimEnd text).toList = dropBlanksEnd text.toList := by
  simp [trimEnd]

@[simp] theorem toList_trim (text : String) :
    (trim text).toList = dropBlanksEnd (dropBlanks text.toList) := by
  simp [trim]

end RpcTools.Text
