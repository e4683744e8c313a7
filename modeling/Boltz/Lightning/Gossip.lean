import Boltz.Core.KeyedFolds

/-!
# Lightning gossip (`boltzr/src/service/lightning_info/mod.rs`)

The graphs that the Lightning nodes know are merged and written to the cache, by node, by channel
and by the node that a channel leads to.
-/

namespace Boltz.Gossip

open Boltz.Core

structure Node where
  id : String
  nodeAlias : Option String
  color : Option String
  deriving DecidableEq, Repr

structure ChannelPolicy where
  active : Bool
  baseFeeMillisatoshi : Nat
  feePpm : Nat
  delay : Nat
  htlcMinimumMillisatoshi : Option Nat
  htlcMaximumMillisatoshi : Option Nat
  deriving DecidableEq, Repr

structure Channel where
  source : Node
  destination : String
  shortChannelId : String
  capacitySat : Option Nat
  active : Bool
  info : ChannelPolicy
  deriving DecidableEq, Repr

structure ChannelInfoSide where
  node : Node
  policy : ChannelPolicy
  deriving DecidableEq, Repr

structure ChannelInfo where
  shortChannelId : String
  capacitySat : Option Nat
  policies : List ChannelInfoSide
  deriving DecidableEq, Repr

structure SourceGossip where
  nodes : List Node
  channels : List Channel
  deriving DecidableEq, Repr

abbrev HashMap (V : Type) := AList fun _ : String => V

/-! ## Nodes -/

def hasText (text : Option String) : Bool := text.any (· ≠ "")

/-- A text of a node that was found before, and one that another source has. -/
def mergeText (existing incoming : Option String) : Option String :=
  if !hasText existing && hasText incoming then incoming else existing

def mergeInto (existing incoming : Node) : Node :=
  { existing with
    nodeAlias := mergeText existing.nodeAlias incoming.nodeAlias
    color := mergeText existing.color incoming.color }

def Node.orMerged (incoming : Node) : Option Node → Node
  | some existing => mergeInto existing incoming
  | none => incoming

def mergeNode (dest : HashMap Node) (incoming : Node) : HashMap Node :=
  upsert dest incoming.id incoming.orMerged

/-- What the sources that answered know. -/
def gossips (results : List (Except String SourceGossip)) : List SourceGossip :=
  results.filterMap Except.toOption

def mergeGossipResults (results : List (Except String SourceGossip)) :
    Except String (HashMap Node × List Channel) :=
  if gossips results = [] then .error "fetching gossip failed for all sources"
  else .ok (((gossips results).flatMap (·.nodes)).foldl mergeNode ∅,
    (gossips results).flatMap (·.channels))

/-! ## Channels -/

structure Stored where
  channelsByDest : HashMap (List Channel)
  channelInfos : HashMap ChannelInfo
  seen : List (String × String)

/-- The direction of a channel. -/
def Channel.key (channel : Channel) : String × String :=
  (channel.shortChannelId, channel.source.id)

/-- The channel with what is known about its source. -/
def enrich (nodes : HashMap Node) (channel : Channel) : Channel :=
  match nodes.lookup channel.source.id with
  | some node => { channel with source := node }
  | none => channel

def Channel.side (channel : Channel) : ChannelInfoSide :=
  { node := channel.source, policy := channel.info }

/-- `or_insert_with` and the policy that is pushed. -/
def ChannelInfo.push (channel : Channel) (info : Option ChannelInfo) : ChannelInfo :=
  let info := info.getD
    { shortChannelId := channel.shortChannelId, capacitySat := channel.capacitySat, policies := [] }
  { info with policies := info.policies ++ [channel.side] }

/-- `or_default` and the channel that is pushed. -/
def pushChannel (channel : Channel) (channels : Option (List Channel)) : List Channel :=
  channels.getD [] ++ [channel]

def storeChannel (nodes : HashMap Node) (stored : Stored) (channel : Channel) : Stored :=
  if channel.key ∈ stored.seen then stored
  else
    let enriched := enrich nodes channel
    { seen := channel.key :: stored.seen
      channelInfos := upsert stored.channelInfos enriched.shortChannelId (.push enriched)
      channelsByDest := upsert stored.channelsByDest enriched.destination (pushChannel enriched) }

def storeChannels (channels : List Channel) (nodes : HashMap Node) : Stored :=
  channels.foldl (storeChannel nodes) { channelsByDest := ∅, channelInfos := ∅, seen := [] }

/-! ## The cache -/

def cacheKeyNode (symbol : String) : String := "gossip:" ++ symbol ++ ":node"

def cacheKeyChannel (symbol : String) : String := "gossip:" ++ symbol ++ ":channel"

def cacheKeyChannels (symbol : String) : String := "gossip:" ++ symbol ++ ":channels"

inductive Value where
  | node (node : Node)
  | channel (channel : ChannelInfo)
  | channels (channels : List Channel)
  deriving DecidableEq, Repr

/-- What the cache has under a key and a field. -/
abbrev Cache := String × String → Option Value

/-- Nothing when there is no source. -/
def updateCache (symbol : String) (results : List (Except String SourceGossip)) (cache : Cache) :
    Except String (Option (HashMap Node × Cache)) :=
  if results = [] then .ok none
  else do
    let (nodes, channels) ← mergeGossipResults results
    let stored := storeChannels channels nodes
    let cache := writeAll (fun id => (cacheKeyNode symbol, id)) .node nodes cache
    let cache := writeAll (fun id => (cacheKeyChannels symbol, id)) .channels
      stored.channelsByDest cache
    let cache := writeAll (fun id => (cacheKeyChannel symbol, id)) .channel
      stored.channelInfos cache
    pure (some (nodes, cache))

end Boltz.Gossip
