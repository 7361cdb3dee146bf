import IrcServer.Text

namespace IrcServer

/-! The program's own name, as replies, help and log show it. -/

namespace Program

def name : Text := "parlance"

def version : Text := "0.1.0"

def description : Text := "A small, concurrent IRC server"

/-- Name and version in one word. -/
def release : Text := name ++ "-" ++ version

end Program

end IrcServer
