import IrcServer.Text

namespace IrcServer

/-! What the command line can say. -/

/-- How much the server logs. -/
inductive Verbosity where
  | quiet
  | normal
  | verbose
  | trace
deriving DecidableEq, Repr

structure Options where
  configFile : Option Text
  port : Option Nat
  password : Option Text
  domain : Option Text
  verbosity : Verbosity
deriving DecidableEq, Repr

end IrcServer
