/-!
# Errors of the gRPC boundary

`tonic::Status` with the codes the server uses, and `ArisaError` of `error.rs`.
-/

namespace Arisa

inductive Code where
  | invalidArgument
  | notFound
  | internal
  | unavailable
deriving DecidableEq

structure Status where
  code : Code
  message : String
deriving DecidableEq

namespace Status

def invalidArgument (message : String) : Status := ⟨.invalidArgument, message⟩
def notFound (message : String) : Status := ⟨.notFound, message⟩
def internal (message : String) : Status := ⟨.internal, message⟩
def unavailable (message : String) : Status := ⟨.unavailable, message⟩

end Status

inductive ArisaError where
  | invalidArgument (message : String)
  | notFound (message : String)
  | internal (message : String)
deriving DecidableEq

end Arisa
