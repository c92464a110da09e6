import HistoryTree.Domain.Direction
import HistoryTree.Domain.Joining
import HistoryTree.Domain.Mapping
import HistoryTree.Domain.Punycode

/-!
# Domain names

A domain name is a list of labels between dots.  It is spelled out and brought into normal
form, and each label that holds characters beyond ASCII is written in ASCII behind `xn--`.
A name in ASCII without such labels is only put into small letters.
-/

namespace HistoryTree.Domain

/-! ## Labels -/

/-- Whether a character is one of ASCII. -/
def isAscii (c : Char) : Bool := c.toNat < 128

/-- Whether a label is written in ASCII for other characters. -/
def isEncoded (label : List Char) : Bool := "xn--".toList.isPrefixOf label

/-- The greatest number of characters of a label. -/
def maxLabel : Nat := 1000

/-- The greatest number of characters of a label that is written for other characters. -/
def maxEncoded : Nat := 2000

/-- The characters that an encoded label is written for.  They are beyond ASCII in part, spelled out
and in normal form. -/
def decodeLabel? (label : List Char) : Option (List Char) :=
  if isEncoded label then
    let written := label.drop 4
    if written.isEmpty || written.getLast? = some '-' || maxEncoded < written.length then none
    else
      (Punycode.decode written).filter fun s =>
        s.all (fun c => spelling? c = some [c]) && normalForm s = s
  else some label

/-- Whether a label may stand in a name. -/
def isLabel (label : List Char) : Bool :=
  !beginsWithMark label && joinersFit [] label &&
    (label.all isAscii || label.length ≤ maxLabel)

/-- The form in ASCII of a label. -/
def encodeLabel (label : List Char) : List Char :=
  if label.all isAscii then label else "xn--".toList ++ Punycode.encode label

/-! ## Names -/

/-- The labels of a name that is spelled out; none if they cannot stand together. -/
def labels? (name : List Char) : Option (List (List Char)) :=
  (((normalForm name).splitOn '.').mapM decodeLabel?).filter fun labels =>
    labels.all isLabel && keepDirection labels

/-- The form in ASCII of a name, which may still hold characters that no host has. -/
def toAscii? (name : List Char) : Option (List Char) :=
  let small := name.map Char.toLower
  if name.all isAscii && (small.splitOn '.').all (!isEncoded ·) then some small
  else ((spell? name).bind labels?).map fun labels =>
    ['.'].intercalate (labels.map encodeLabel)

end HistoryTree.Domain
