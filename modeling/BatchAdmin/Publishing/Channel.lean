/-
Channels: where published files are handed on.

A channel takes one file at a time and either accepts it or says why
not. The log accepts everything. A webhook posts the file to its address
and accepts when the reply is no client or server error; without a
reply, or with an address that is none, the delivery fails. A fickle
channel refuses some deliveries and accepts the others, by their number;
it exists to exercise retries.

What a channel has seen is part of the channel: how many deliveries a
fickle one was offered, which documents a webhook's endpoint received.
-/
import BatchAdmin.Staging.FileInfo
import BatchAdmin.WebAddress.Basic

namespace BatchAdmin

open Text

-- ============================================================ the settings

/-- The kinds of channel that can be asked for. -/
inductive ChannelKind where
  | none
  | log
  | webhook
  deriving DecidableEq, Repr

/-- Which channel is wanted. -/
structure PublishRules where
  kind : ChannelKind
  webhookUrl : Option String
  deriving DecidableEq, Repr

-- ============================================================ the channels

/-- What comes back from a webhook's endpoint. -/
inductive Reply where
  /-- Nothing: the endpoint could not be reached. -/
  | silence
  | status (code : Nat)
  deriving DecidableEq, Repr

/-- A channel and what it has seen. -/
inductive Channel where
  | log
  /-- `replies` are those still to come; after them there is silence. -/
  | webhook (url : String) (replies : List Reply) (received : List Json)
  /-- Refuses a delivery if `refuses` says so of the number of those
  before it, which is `offered`. -/
  | fickle (refuses : Nat → Bool) (offered : Nat)

namespace Channel

/-- The channel that the settings ask for; a webhook needs an
address. -/
def ofRules? (rules : PublishRules) : Option Channel :=
  match rules.kind, rules.webhookUrl with
  | .none, _ => none
  | .log, _ => some .log
  | .webhook, some url =>
      if url.isEmpty then none else some (.webhook url [] [])
  | .webhook, none => none

/-- What a webhook posts. -/
def payload (file : FileInfo) : Json :=
  .object [("event", .text "file.published"),
    ("file", .object [("path", .text file.path),
      ("shortPath", .text file.shortPath),
      ("timestamp", .text file.timestamp),
      ("local", .bool file.isLocal)])]

/-- Why nothing can be posted to the address that a text gives; of an
address for other uses it is told which. -/
def obstacle? (url : String) : Option String :=
  match WebAddress.read? url with
  | none => some "builder error"
  | some a =>
      if a.isPostable then none
      else some ("builder error for url (" ++ a.text ++ ")")

/-- The address that a text gives, as it is told. -/
def shownAddress (url : String) : String :=
  ((WebAddress.read? url).map (·.text)).getD url

/-- Why a reply is no acceptance. -/
def refusal? (url : String) : Reply → Option String
  | .silence => some ("error sending request for url (" ++ url ++ ")")
  | .status code =>
      let said := "(" ++ natText code ++ ") for url (" ++ url ++ ")"
      if 400 ≤ code ∧ code < 500 then
        some ("HTTP status client error " ++ said)
      else if 500 ≤ code ∧ code < 600 then
        some ("HTTP status server error " ++ said)
      else none

/-- The document reached the endpoint. -/
def Reply.heard : Reply → Bool
  | .silence => false
  | .status _ => true

/-- Offers a file to a channel. -/
def deliver (channel : Channel) (file : FileInfo) :
    Except String Unit × Channel :=
  match channel with
  | .log => (.ok (), .log)
  | .webhook url replies received =>
      match obstacle? url with
      | some why => (.error why, channel)
      | none =>
          let reply := replies.headD .silence
          let received := if Reply.heard reply
            then received ++ [payload file] else received
          let outcome := match refusal? (shownAddress url) reply with
            | some why => .error why
            | none => .ok ()
          (outcome, .webhook url replies.tail received)
  | .fickle refuses offered =>
      let outcome := if refuses offered
        then .error "downstream unavailable" else .ok ()
      (outcome, .fickle refuses (offered + 1))

/-- How many deliveries a fickle channel was offered. -/
def offered? : Channel → Option Nat
  | .fickle _ offered => some offered
  | _ => none

/-- The documents a webhook's endpoint received. -/
def received? : Channel → Option (List Json)
  | .webhook _ _ received => some received
  | _ => none

end Channel

end BatchAdmin
