import IrcServer.Text

namespace IrcServer

/-! Names of clients and of channels.  Lengths are counted in bytes. -/

namespace Nickname

/-- A character that a nickname may hold: an ASCII letter or digit, a dash, or one of the
punctuation characters that stand next to the letters. -/
def isChar (c : Char) : Bool :=
  c.isAlphanum || (0x5B ≤ c.toNat && c.toNat ≤ 0x60) || (0x7B ≤ c.toNat && c.toNat ≤ 0x7D) ||
    c = '-'

def isFirstChar (c : Char) : Bool :=
  isChar c && c ≠ '-' && !c.isDigit

def isValid (limit : Nat) (name : Text) : Bool :=
  name.head?.any isFirstChar && name.all isChar && name.byteLength ≤ limit

end Nickname

namespace ChannelName

/-- A character that a channel name may hold: all but the space, the comma and the bell. -/
def isChar (c : Char) : Bool :=
  c ≠ ' ' && c ≠ ',' && c.toNat ≠ 7

def isValid (limit : Nat) (name : Text) : Bool :=
  name.head? = some '#' && 1 < name.byteLength && name.byteLength ≤ limit && name.all isChar

end ChannelName

end IrcServer
