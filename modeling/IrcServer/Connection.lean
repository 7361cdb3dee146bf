import IrcServer.Text

namespace IrcServer

/-! How far a connection has come on its way to registration. -/

/-- `unknown` before the client has said anything of itself, `identified` once it has given a
nickname or a username, `registered` when it holds its nickname. -/
inductive ConnectionState where
  | unknown
  | identified
  | registered
deriving DecidableEq, Repr

def ConnectionState.rank : ConnectionState → Nat
  | unknown => 0
  | identified => 1
  | registered => 2

structure Connection where
  host : Text
  state : ConnectionState
deriving DecidableEq, Repr

namespace Connection

def new (host : Text) : Connection :=
  { host, state := .unknown }

/-- Whether the connection would move to `state`: it never moves back. -/
def canAdvance (connection : Connection) (state : ConnectionState) : Bool :=
  connection.state.rank ≤ state.rank

def advance (connection : Connection) (state : ConnectionState) : Connection :=
  if connection.canAdvance state then { connection with state } else connection

end Connection

end IrcServer
