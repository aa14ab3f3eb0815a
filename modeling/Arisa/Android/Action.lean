import Arisa.Media.Upload

/-!
# Actions for the Android thread

`Action` of `android/action.rs`. The requests send them through an unbounded
channel; one thread receives and processes them in order.
-/

namespace Arisa.Android

open Arisa.Media

inductive Action where
  | reply (channelId : Int64) (message : String) (threadId : Option Int64)
  | markRead (channelId : Int64)
  | sendMedia (channelId : Int64) (files : List MediaFile) (multiple : Bool)
  | enterChannel (channelId : Int64)
deriving DecidableEq

/-- The files an action refers to. -/
def Action.files : Action → List MediaFile
  | .sendMedia _ files _ => files
  | .reply .. | .markRead _ | .enterChannel _ => []

end Arisa.Android
