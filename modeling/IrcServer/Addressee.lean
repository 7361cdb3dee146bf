import IrcServer.Buffer
import IrcServer.Reply

namespace IrcServer

/-! Writing to one client in the server's name. -/

/-- Who speaks and who is spoken to: the server's domain and the client's nickname. -/
structure Addressee where
  domain : Text
  nick : Text
deriving DecidableEq, Repr

namespace Addressee

/-- A line from the server whose first parameter is the client's nickname. -/
def line (addressee : Addressee) (code : Text) (params : List Param) (text : Option Text) : Line :=
  { origin := addressee.domain, command := code, params := .word addressee.nick :: params, text }

def reply (addressee : Addressee) (reply : Reply) : Line :=
  addressee.line reply.code reply.params reply.text

/-- A line from the server that names no client. -/
def plainLine (addressee : Addressee) (command : Text) (params : List Param)
    (text : Option Text) : Line :=
  { origin := addressee.domain, command, params, text }

end Addressee

/-- A buffer of lines for one client, whose nickname may change between them. -/
structure ReplyBuffer where
  addressee : Addressee
  buffer : Buffer

namespace ReplyBuffer

def new (domain nick : Text) : ReplyBuffer :=
  ⟨⟨domain, nick⟩, .empty⟩

def setNick (replies : ReplyBuffer) (nick : Text) : ReplyBuffer :=
  { replies with addressee := { replies.addressee with nick } }

def message (replies : ReplyBuffer) (line : Line) : ReplyBuffer :=
  { replies with buffer := replies.buffer.message line }

def reply (replies : ReplyBuffer) (code : Text) (params : List Param) (text : Option Text) :
    ReplyBuffer :=
  replies.message (replies.addressee.line code params text)

def plain (replies : ReplyBuffer) (command : Text) (params : List Param) (text : Option Text) :
    ReplyBuffer :=
  replies.message (replies.addressee.plainLine command params text)

end ReplyBuffer

end IrcServer
