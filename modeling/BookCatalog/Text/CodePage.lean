/-!
# Code page 437

The characters of the code page in which old archives write names. Bytes below 128 are ASCII.
-/

namespace BookCatalog.Text

/-- The characters of the bytes from 128 on. -/
def codePageUpper : Array Char :=
  ("ÇüéâäàåçêëèïîìÄÅÉæÆôöòûùÿÖÜ¢£¥₧ƒ" ++
    "áíóúñÑªº¿⌐¬½¼¡«»░▒▓│┤╡╢╖╕╣║╗╝╜╛┐" ++
    "└┴┬├─┼╞╟╚╔╩╦╠═╬╧╨╤╥╙╘╒╓╫╪┘┌█▄▌▐▀" ++
    "αßΓπΣσµτΦΘΩδ∞φε∩≡±≥≤⌠⌡÷≈°∙·√ⁿ²■\u00a0").toList.toArray

/-- The character of a byte. -/
def codePageChar (b : UInt8) : Char :=
  if b < 128 then Char.ofNat b.toNat else (codePageUpper[b.toNat - 128]?).getD '?'

/-- The characters that bytes hold. -/
def decodeCodePage (bytes : List UInt8) : List Char :=
  bytes.map codePageChar

end BookCatalog.Text
