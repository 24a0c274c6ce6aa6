import MockProvider.Contract.Error
import MockProvider.Files.Tree
import MockProvider.Server.Address

/-!
# Errors of servers

Why a server cannot be started, found, or write its pact document. Callers that cannot take words
get a negative code for each error.
-/

namespace MockProvider

/-- Why an address cannot be listened at. -/
inductive BindFault where
  | invalid
  | inUse
  | notAvailable
deriving DecidableEq, Repr

def BindFault.message : BindFault → String
  | .invalid => "Invalid argument (os error 22)"
  | .inUse => "Address already in use (os error 98)"
  | .notAvailable => "Cannot assign requested address (os error 99)"

/-- Why a pact document cannot be written. -/
inductive WriteFault where
  | file (fault : FileFault)
  | contract (error : ContractError)
deriving DecidableEq, Repr

def WriteFault.message : WriteFault → String
  | .file fault => fault.message
  | .contract error => error.message

/-- Why a server does not do what it is asked. -/
inductive ServerError where
  | contract (error : ContractError)
  | badAddress (text : String)
  | bind (address : SocketAddress) (fault : BindFault)
  | socketTaken (socket : UInt16)
  | notFound (socket : UInt16)
  | write (path : String) (fault : WriteFault)
deriving DecidableEq, Repr

namespace ServerError

/-- The error in words, the numbers of sockets as `render` writes them. -/
def messageWith (render : UInt16 → String) : ServerError → String
  | .contract error => error.message
  | .badAddress text => "Invalid bind address '" ++ text ++ "'"
  | .bind address fault =>
    "Failed to bind " ++ address.renderWith (render address.socket) ++ ": " ++ fault.message
  | .socketTaken socket =>
    "Port " ++ render socket ++ " is already in use by another mock server"
  | .notFound socket => "No mock server running on port " ++ render socket
  | .write path fault => "Failed to write pact file " ++ path ++ ": " ++ fault.message

def message (e : ServerError) : String :=
  e.messageWith fun socket => toString socket.toNat

def code : ServerError → Int
  | .contract _ => -2
  | .badAddress _ => -5
  | .bind _ _ => -3
  | .socketTaken _ => -3
  | .notFound _ => -1
  | .write _ _ => -3

end ServerError

end MockProvider
