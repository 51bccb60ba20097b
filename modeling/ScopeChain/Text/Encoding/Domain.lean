/-
Domain names: labels with points between them, of which some are Punycode.

A label in Punycode is one that a text has as its name: the text is prepared and written in
Punycode again, and has to be the label but for case.
-/
import ScopeChain.Text.Encoding.Refusal

namespace ScopeChain
namespace Encoding
namespace Domain

/-- What a label in Punycode begins with. -/
def mark : List Char := ['x', 'n', '-', '-']

def isAscii (cs : List Char) : Bool := cs.all (·.toNat < 0x80)

/-- A label that is neither empty nor too long. -/
def sized (label : List Char) : Except Refusal (List Char) :=
  if label.isEmpty || 64 ≤ label.length then .error .labelSize else .ok label

/-- The label of a text. -/
def labelOf (cs : List Char) : Except Refusal (List Char) :=
  if isAscii cs then sized cs
  else
    match Prepared.prepare cs with
    | .error f => .error (.labelText f)
    | .ok cs =>
      if isAscii cs then sized cs
      else if mark.isPrefixOf cs then .error .labelMark
      else sized (mark ++ Punycode.encode cs)

def decodeLabel (label : List Char) : Except Refusal (List Char) :=
  if mark.isPrefixOf label then
    match Punycode.decode (label.drop mark.length) with
    | .error f => .error (.labelDigits f)
    | .ok cs =>
      match labelOf cs with
      | .error r => .error r
      | .ok other =>
        if label.map Char.toLower = other then .ok cs else .error (.labelOther label other)
  else .ok label

/-- The text of labels, from the reversed characters `label` of the first on. -/
def decodeLabels (label : List Char) : List Char → Except Refusal (List Char)
  | [] => decodeLabel label.reverse
  | c :: rest =>
    if c = '.' then
      match decodeLabel label.reverse, decodeLabels [] rest with
      | .ok cs, .ok rest => .ok (cs ++ '.' :: rest)
      | .error r, _ => .error r
      | _, .error r => .error r
    else decodeLabels (c :: label) rest

/-- A label without the mark is its text. -/
theorem decodeLabel_of_not_mark {label : List Char} (h : mark.isPrefixOf label = false) :
    decodeLabel label = .ok label := by
  simp [decodeLabel, h]

end Domain
end Encoding
end ScopeChain
