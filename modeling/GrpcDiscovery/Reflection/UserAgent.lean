import GrpcDiscovery.ReflectionError

namespace GrpcDiscovery.UserAgent

/-!
# Names of clients

A client gives its name in a header of every request. A header takes any text
without controls, the tab excepted.
-/

/-- Whether a character may stand in a header. -/
def isHeaderChar (char : Char) : Bool :=
  char == '\t' || (0x20 ≤ char.toNat && char.toNat != 0x7F)

/-- Refuse a name that no header takes. -/
def check (name : String) : Except ReflectionError Unit :=
  if name.toList.all isHeaderChar then
    .ok ()
  else
    .error (.request (.unbuildable none))

end GrpcDiscovery.UserAgent
