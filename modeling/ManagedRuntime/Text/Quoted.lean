import ManagedRuntime.Text.Combining
import ManagedRuntime.Text.Hexadecimal
import ManagedRuntime.Text.Unprintable

/-! Text between double quotes with every character visible: six characters have an escape of
their own, unprintable and combining ones are written as code points. -/
namespace ManagedRuntime.Text

def escapeCodePoint (c : Char) : List Char :=
  "\\u\x7b".toList ++ Nat.toDigits 16 c.toNat ++ ['\x7d']

def escape (c : Char) : List Char :=
  if c = '\x00' then "\\0".toList
  else if c = '\t' then "\\t".toList
  else if c = '\r' then "\\r".toList
  else if c = '\n' then "\\n".toList
  else if c = '"' then "\\\"".toList
  else if c = '\\' then "\\\\".toList
  else if isCombining c || isUnprintable c then escapeCodePoint c
  else [c]

def quoted (text : String) : String :=
  String.ofList ('"' :: text.toList.flatMap escape ++ ['"'])

end ManagedRuntime.Text
