import DiceChat.Failure

/-! Messages to the chat, and what becomes of them: each attempt to send one gets through or fails. -/

namespace DiceChat

/-- How a message is sent. -/
inductive Manner where
  /-- In answer to the message of the caller. -/
  | reply
  /-- On its own. -/
  | send
deriving DecidableEq

/-- A framed text with a title. -/
structure Embed where
  /-- The title. -/
  title : Text
  /-- The text. -/
  description : Text
  /-- The color of the frame. -/
  color : Nat
deriving DecidableEq

/-- A file that goes with a message. -/
structure Attachment where
  /-- The name of the file. -/
  name : Text
  /-- What it holds. -/
  content : Text
deriving DecidableEq

/-- A message to the chat. -/
structure Message where
  /-- How it is sent. -/
  manner : Manner
  /-- Its plain text. -/
  content : Option Text
  /-- Its framed text. -/
  embed : Option Embed
  /-- The file that goes with it. -/
  attachment : Option Attachment
deriving DecidableEq

namespace Message

/-- A reply of plain text. -/
def textReply (content : Text) : Message := ⟨.reply, some content, none, none⟩

/-- A reply of framed text. -/
def embedReply (embed : Embed) : Message := ⟨.reply, none, some embed, none⟩

/-- A message of framed text on its own. -/
def embedSend (embed : Embed) : Message := ⟨.send, none, some embed, none⟩

end Message

/-- An attempt to send a message. -/
structure Delivery where
  /-- The message. -/
  message : Message
  /-- Why it did not get through, if it did not. -/
  failure : Option Failure
deriving DecidableEq

/-- Sends messages in turn until one gets through, when the first attempts fail so. -/
def deliver : List Failure → List Message → List Delivery
  -- Each further message stands in for the one before it.
  | _, [] => []
  | [], message :: _ => [⟨message, none⟩]
  | failure :: failures, message :: others => ⟨message, some failure⟩ :: deliver failures others

/-- Why no message got through, if there was one to send and none did. -/
def undelivered? (deliveries : List Delivery) : Option Failure :=
  -- Only the last attempt can have got through.
  deliveries.getLast?.bind Delivery.failure

end DiceChat
