import ShaderInterface.Text.Combining
import ShaderInterface.Text.Hex
import ShaderInterface.Text.Invisible
import ShaderInterface.Text.Unassigned

/-! Quoted text for diagnostics: a name is shown between double quotes, with the characters that
would not print, or not by themselves, replaced by escapes. -/
namespace ShaderInterface.Text.Quoted

def prints (c : Char) : Bool :=
  if c.toNat < 0x7f then 0x20 ≤ c.toNat
  else
    !Invisible.isInvisible c && !Combining.isCombining c && !Unassigned.isUnassigned c

def escape (c : Char) : String :=
  if c = '"' then "\\\""
  else if c = '\\' then "\\\\"
  else if c = '\n' then "\\n"
  else if c = '\t' then "\\t"
  else if c = '\r' then "\\r"
  else if c = Char.ofNat 0 then "\\0"
  else if prints c then c.toString
  else "\\u\x7b" ++ Hex.shortest c.toNat ++ "\x7d"

/-- Text between double quotes, each character in its written form. -/
def quote (text : String) : String :=
  "\"" ++ String.join (text.toList.map escape) ++ "\""

end ShaderInterface.Text.Quoted
