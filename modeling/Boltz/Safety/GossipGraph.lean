import Boltz.Lightning.Gossip

/-!
# The merged graph

Of every node the first texts that a source has are kept, and of every direction of a channel the
first policy. What is stored by channel and by node is the same.
-/

namespace Boltz.Gossip

open Boltz.Core

/-! ## Nodes -/

/-- The first text that is not empty, and without one what was there first. -/
def firstText (first : Option String) (texts : List (Option String)) : Option String :=
  ((first :: texts).find? hasText).getD first

/-- What sources with a node make of it. -/
def mergedNode : List Node → Option Node
  | [] => none
  | node :: nodes => some
    { id := node.id
      nodeAlias := firstText node.nodeAlias (nodes.map (·.nodeAlias))
      color := firstText node.color (nodes.map (·.color)) }

theorem foldl_mergeText (first : Option String) (texts : List (Option String)) :
    texts.foldl mergeText first = firstText first texts := by
  induction texts generalizing first with
  | nil =>
    unfold firstText
    rw [List.find?_cons]
    split <;> rfl
  | cons text texts ih =>
    rw [List.foldl_cons, ih]
    unfold firstText mergeText
    cases hfirst : hasText first with
    | true => simp only [Bool.not_true, Bool.false_and, Bool.false_eq_true, if_false,
        List.find?_cons, hfirst]
    | false =>
      cases htext : hasText text with
      | true => simp only [Bool.not_false, Bool.and_self, if_true, List.find?_cons, hfirst, htext,
          Option.getD_some]
      | false => simp only [Bool.not_false, Bool.and_false, Bool.false_eq_true, if_false,
          List.find?_cons, hfirst, htext]

theorem foldl_mergeInto (node : Node) (nodes : List Node) :
    nodes.foldl mergeInto node =
      { id := node.id
        nodeAlias := firstText node.nodeAlias (nodes.map (·.nodeAlias))
        color := firstText node.color (nodes.map (·.color)) } := by
  rw [← foldl_mergeText, ← foldl_mergeText]
  induction nodes generalizing node with
  | nil => rfl
  | cons next nodes ih => exact ih (mergeInto node next)

theorem foldl_orMerged (nodes : List Node) :
    nodes.foldl (fun existing node => some (node.orMerged existing)) none = mergedNode nodes := by
  cases nodes with
  | nil => rfl
  | cons node nodes =>
    have hsome : ∀ existing, nodes.foldl (fun existing node => some (node.orMerged existing))
        (some existing) = some (nodes.foldl mergeInto existing) := by
      intro existing
      induction nodes generalizing existing with
      | nil => rfl
      | cons next nodes ih => exact ih (mergeInto existing next)
    rw [List.foldl_cons, mergedNode, ← foldl_mergeInto]
    exact hsome node

theorem lookup_nodes (nodes : List Node) (id : String) :
    (nodes.foldl mergeNode ∅).lookup id = mergedNode (nodes.filter fun node => node.id = id) := by
  rw [← foldl_orMerged]
  exact lookup_foldl_upsert (·.id) Node.orMerged nodes ∅ id

theorem id_of_mergedNode {nodes : List Node} {id : String} {node : Node}
    (h : mergedNode (nodes.filter fun node => node.id = id) = some node) : node.id = id := by
  cases hnodes : nodes.filter fun node => node.id = id with
  | nil =>
    rw [hnodes] at h
    cases h
  | cons first rest =>
    rw [hnodes] at h
    cases h
    have hfirst : first ∈ nodes.filter fun node => node.id = id := hnodes ▸ List.mem_cons_self
    exact of_decide_eq_true (List.mem_filter.mp hfirst).2

/-! ## Channels -/

/-- What channels make of the information about one of them. -/
def channelInfo : List Channel → Option ChannelInfo
  | [] => none
  | channel :: channels => some
    { shortChannelId := channel.shortChannelId
      capacitySat := channel.capacitySat
      policies := (channel :: channels).map Channel.side }

def channelList (channels : List Channel) : Option (List Channel) :=
  if channels = [] then none else some channels

theorem foldl_push (channels : List Channel) :
    channels.foldl (fun info channel => some (ChannelInfo.push channel info)) none =
      channelInfo channels := by
  cases channels with
  | nil => rfl
  | cons channel channels =>
    have hsome : ∀ info, channels.foldl (fun info channel => some (ChannelInfo.push channel info))
        (some info) = some { info with policies := info.policies ++ channels.map Channel.side } := by
      intro info
      induction channels generalizing info with
      | nil => rw [List.map_nil, List.append_nil]; rfl
      | cons next channels ih =>
        rw [List.foldl_cons, ih, ChannelInfo.push, Option.getD_some, List.append_assoc]
        rfl
    rw [List.foldl_cons, hsome]
    rfl

theorem foldl_pushChannel (channels : List Channel) :
    channels.foldl (fun list channel => some (pushChannel channel list)) none =
      channelList channels := by
  cases channels with
  | nil => rfl
  | cons channel channels =>
    have hsome : ∀ list, channels.foldl (fun list channel => some (pushChannel channel list))
        (some list) = some (list ++ channels) := by
      intro list
      induction channels generalizing list with
      | nil => rw [List.append_nil]; rfl
      | cons next channels ih =>
        rw [List.foldl_cons, ih, pushChannel, Option.getD_some, List.append_assoc]
        rfl
    rw [List.foldl_cons, hsome]
    rfl

/-- The channels that are stored. -/
def directions (nodes : HashMap Node) (channels : List Channel) : List Channel :=
  (firsts Channel.key channels).map (enrich nodes)

theorem foldl_storeChannel (nodes : HashMap Node) (channels : List Channel) (stored : Stored) :
    (channels.foldl (storeChannel nodes) stored).channelInfos =
        ((firstsFrom Channel.key stored.seen channels).map (enrich nodes)).foldl
          (fun infos channel => upsert infos channel.shortChannelId (.push channel))
          stored.channelInfos ∧
      (channels.foldl (storeChannel nodes) stored).channelsByDest =
        ((firstsFrom Channel.key stored.seen channels).map (enrich nodes)).foldl
          (fun lists channel => upsert lists channel.destination (pushChannel channel))
          stored.channelsByDest := by
  induction channels generalizing stored with
  | nil => exact ⟨rfl, rfl⟩
  | cons channel channels ih =>
    rw [List.foldl_cons]
    unfold firstsFrom storeChannel
    split
    · exact ih stored
    · exact ih _

theorem lookup_channelInfos (nodes : HashMap Node) (channels : List Channel) (scid : String) :
    (storeChannels channels nodes).channelInfos.lookup scid =
      channelInfo ((directions nodes channels).filter fun channel =>
        channel.shortChannelId = scid) := by
  unfold storeChannels
  rw [(foldl_storeChannel nodes channels _).1, ← foldl_push]
  exact lookup_foldl_upsert (·.shortChannelId) ChannelInfo.push (directions nodes channels) ∅ scid

theorem lookup_channelsByDest (nodes : HashMap Node) (channels : List Channel)
    (destination : String) :
    (storeChannels channels nodes).channelsByDest.lookup destination =
      channelList ((directions nodes channels).filter fun channel =>
        channel.destination = destination) := by
  unfold storeChannels
  rw [(foldl_storeChannel nodes channels _).2, ← foldl_pushChannel]
  exact lookup_foldl_upsert (·.destination) pushChannel (directions nodes channels) ∅ destination

/-! ## The cache -/

theorem cacheKeys_ne (symbol : String) {suffix suffix' : String} (h : suffix ≠ suffix') :
    "gossip:" ++ symbol ++ suffix ≠ "gossip:" ++ symbol ++ suffix' :=
  fun heq => h ((String.append_right_inj _).mp heq)

theorem fields_injective (key : String) : Function.Injective fun field : String => (key, field) :=
  fun _ _ h => congrArg Prod.snd h

/-- A map that is written under one key, read under the same and under others. -/
theorem writeAll_field {V : Type} {value : V → Value} {m : HashMap V} {cache : Cache}
    {key field : String} :
    writeAll (fun field => (key, field)) value m cache (key, field) =
      ((m.lookup field).map value).or (cache (key, field)) :=
  writeAll_self (fields_injective key) field

theorem writeAll_other {V : Type} {value : V → Value} {m : HashMap V} {cache : Cache}
    {key other field : String} (h : key ≠ other) :
    writeAll (fun field => (key, field)) value m cache (other, field) = cache (other, field) :=
  writeAll_of_ne fun _ heq => h (congrArg Prod.fst heq)

theorem updateCache_cases {symbol : String} {results : List (Except String SourceGossip)}
    {cache cache' : Cache} {nodes : HashMap Node}
    (h : updateCache symbol results cache = .ok (some (nodes, cache'))) :
    ∃ channels, mergeGossipResults results = .ok (nodes, channels) ∧
      cache' = writeAll (fun id => (cacheKeyChannel symbol, id)) .channel
        (storeChannels channels nodes).channelInfos
        (writeAll (fun id => (cacheKeyChannels symbol, id)) .channels
          (storeChannels channels nodes).channelsByDest
          (writeAll (fun id => (cacheKeyNode symbol, id)) .node nodes cache)) := by
  unfold updateCache at h
  split at h
  · cases h
  · cases hmerged : mergeGossipResults results with
    | error err =>
      rw [hmerged] at h
      cases h
    | ok merged =>
      rw [hmerged] at h
      cases h
      exact ⟨merged.2, rfl, rfl⟩

theorem of_mergeGossipResults {results : List (Except String SourceGossip)}
    {nodes : HashMap Node} {channels : List Channel}
    (h : mergeGossipResults results = .ok (nodes, channels)) :
    nodes = ((gossips results).flatMap (·.nodes)).foldl mergeNode ∅ ∧
      channels = (gossips results).flatMap (·.channels) := by
  unfold mergeGossipResults at h
  split at h
  · cases h
  · cases h
    exact ⟨rfl, rfl⟩

/-- An update keeps the first texts of every node, stores under every channel and under every node
the first policies of all directions, with what is known about their sources, and leaves everything
else in the cache as it is. -/
theorem graph_merged {symbol : String} {results : List (Except String SourceGossip)}
    {cache cache' : Cache} {nodes : HashMap Node}
    (h : updateCache symbol results cache = .ok (some (nodes, cache'))) :
    (∀ id, nodes.lookup id =
        mergedNode (((gossips results).flatMap (·.nodes)).filter fun node => node.id = id)) ∧
      (∀ id, cache' (cacheKeyNode symbol, id) =
        ((nodes.lookup id).map .node).or (cache (cacheKeyNode symbol, id))) ∧
      (∀ scid, cache' (cacheKeyChannel symbol, scid) =
        ((channelInfo ((directions nodes ((gossips results).flatMap (·.channels))).filter
          fun channel => channel.shortChannelId = scid)).map .channel).or
            (cache (cacheKeyChannel symbol, scid))) ∧
      (∀ destination, cache' (cacheKeyChannels symbol, destination) =
        ((channelList ((directions nodes ((gossips results).flatMap (·.channels))).filter
          fun channel => channel.destination = destination)).map .channels).or
            (cache (cacheKeyChannels symbol, destination))) ∧
      ∀ key field, cacheKeyNode symbol ≠ key → cacheKeyChannel symbol ≠ key →
        cacheKeyChannels symbol ≠ key → cache' (key, field) = cache (key, field) := by
  obtain ⟨channels, hmerged, rfl⟩ := updateCache_cases h
  obtain ⟨hnodes, rfl⟩ := of_mergeGossipResults hmerged
  have hchannelNode : cacheKeyChannel symbol ≠ cacheKeyNode symbol :=
    cacheKeys_ne symbol (by decide)
  have hchannelsNode : cacheKeyChannels symbol ≠ cacheKeyNode symbol :=
    cacheKeys_ne symbol (by decide)
  have hchannelChannels : cacheKeyChannel symbol ≠ cacheKeyChannels symbol :=
    cacheKeys_ne symbol (by decide)
  refine ⟨fun id => ?_, fun id => ?_, fun scid => ?_, fun destination => ?_,
    fun key field hnode hchannel hchannels => ?_⟩
  · rw [hnodes]
    exact lookup_nodes _ id
  · rw [writeAll_other hchannelNode, writeAll_other hchannelsNode, writeAll_field]
  · rw [writeAll_field, lookup_channelInfos, writeAll_other (Ne.symm hchannelChannels),
      writeAll_other (Ne.symm hchannelNode)]
  · rw [writeAll_other hchannelChannels, writeAll_field, lookup_channelsByDest,
      writeAll_other (Ne.symm hchannelsNode)]
  · rw [writeAll_other hchannel, writeAll_other hchannels, writeAll_other hnode]

/-- A source that does not answer, and two that know the same channel, one of them in both
directions. -/
def exampleResults : List (Except String SourceGossip) :=
  let policy : ChannelPolicy :=
    { active := true, baseFeeMillisatoshi := 1000, feePpm := 1, delay := 40,
      htlcMinimumMillisatoshi := none, htlcMaximumMillisatoshi := none }
  let channel : Channel :=
    { source := { id := "a", nodeAlias := none, color := none }, destination := "b",
      shortChannelId := "1x2x3", capacitySat := none, active := true, info := policy }
  [.error "offline",
    .ok
      { nodes := [{ id := "a", nodeAlias := none, color := some "ff0000" }], channels := [channel] },
    .ok
      { nodes := [{ id := "a", nodeAlias := some "alice", color := some "00ff00" }],
        channels :=
          [{ channel with info := { policy with feePpm := 2 } },
            { channel with
              source := { id := "b", nodeAlias := none, color := none }
              destination := "a"
              info := { policy with feePpm := 3 } }] }]

theorem graph_merged_example : ∃ nodes cache',
    updateCache "BTC" exampleResults (fun _ => none) = .ok (some (nodes, cache')) ∧
      cache' (cacheKeyNode "BTC", "a") =
        some (.node { id := "a", nodeAlias := some "alice", color := some "ff0000" }) := by
  obtain ⟨nodes, cache', h⟩ : ∃ nodes cache',
      updateCache "BTC" exampleResults (fun _ => none) = .ok (some (nodes, cache')) := ⟨_, _, rfl⟩
  obtain ⟨hnodes, hcache, -⟩ := graph_merged h
  refine ⟨nodes, cache', h, ?_⟩
  rw [hcache, hnodes]
  rfl

/-! ## Directions -/

section

variable {nodes : HashMap Node} {channels : List Channel}

/-- Channels keep their direction when they get what is known about their source. -/
theorem enrich_spec (hids : ∀ id node, nodes.lookup id = some node → node.id = id)
    (channel : Channel) : (enrich nodes channel).key = channel.key ∧
      (enrich nodes channel).info = channel.info := by
  unfold enrich
  split
  · rename_i node hnode
    exact ⟨congrArg (Prod.mk channel.shortChannelId) (hids _ node hnode), rfl⟩
  · exact ⟨rfl, rfl⟩

theorem directions_pairwise (hids : ∀ id node, nodes.lookup id = some node → node.id = id) :
    (directions nodes channels).Pairwise fun a b => a.key ≠ b.key := by
  refine List.pairwise_map.mpr ((firsts_pairwise Channel.key channels).imp fun hne => ?_)
  rwa [(enrich_spec hids _).1, (enrich_spec hids _).1]

theorem channelInfo_eq_some {list : List Channel} {info : ChannelInfo}
    (h : channelInfo list = some info) : list ≠ [] ∧ info.policies = list.map Channel.side := by
  cases list with
  | nil => cases h
  | cons channel rest =>
    cases h
    exact ⟨List.cons_ne_nil _ _, rfl⟩

theorem exists_channelInfo {list : List Channel} {channel : Channel} (h : channel ∈ list) :
    ∃ info, channelInfo list = some info := by
  cases list with
  | nil => cases h
  | cons first rest => exact ⟨_, rfl⟩

theorem channelList_eq_some {list list' : List Channel} (h : channelList list = some list') :
    list' = list := by
  unfold channelList at h
  split at h
  · cases h
  · exact (Option.some.inj h).symm

theorem exists_channelList {list : List Channel} {channel : Channel} (h : channel ∈ list) :
    channelList list = some list := by
  unfold channelList
  rw [if_neg (List.ne_nil_of_mem h)]

/-- What is stored under a channel are the directions of this channel. -/
theorem mem_policies {scid : String} {side : ChannelInfoSide} :
    (∃ info, (storeChannels channels nodes).channelInfos.lookup scid = some info ∧
      side ∈ info.policies) ↔
      ∃ channel ∈ directions nodes channels, channel.shortChannelId = scid ∧
        channel.side = side := by
  rw [lookup_channelInfos]
  constructor
  · rintro ⟨info, hinfo, hside⟩
    rw [(channelInfo_eq_some hinfo).2] at hside
    obtain ⟨channel, hchannel, rfl⟩ := List.mem_map.mp hside
    obtain ⟨hmem, hscid⟩ := List.mem_filter.mp hchannel
    exact ⟨channel, hmem, of_decide_eq_true hscid, rfl⟩
  · rintro ⟨channel, hmem, hscid, rfl⟩
    have hchannel : channel ∈ (directions nodes channels).filter fun channel =>
        channel.shortChannelId = scid := List.mem_filter.mpr ⟨hmem, decide_eq_true hscid⟩
    obtain ⟨info, hinfo⟩ := exists_channelInfo hchannel
    refine ⟨info, hinfo, ?_⟩
    rw [(channelInfo_eq_some hinfo).2]
    exact List.mem_map_of_mem hchannel

/-- What is stored under the nodes are all directions. -/
theorem mem_channelsByDest {channel : Channel} :
    (∃ destination list,
      (storeChannels channels nodes).channelsByDest.lookup destination = some list ∧
        channel ∈ list) ↔ channel ∈ directions nodes channels := by
  constructor
  · rintro ⟨destination, list, hlist, hmem⟩
    rw [lookup_channelsByDest] at hlist
    rw [channelList_eq_some hlist] at hmem
    exact (List.mem_filter.mp hmem).1
  · intro hmem
    have hchannel : channel ∈ (directions nodes channels).filter fun other =>
        other.destination = channel.destination := List.mem_filter.mpr ⟨hmem, decide_eq_true rfl⟩
    refine ⟨channel.destination, _, ?_, hchannel⟩
    rw [lookup_channelsByDest]
    exact exists_channelList hchannel

end

/-- Every direction that a source has heard of is stored once with its channel, with its first
policy, and what is stored under the channels is the same as what is stored under the nodes. -/
theorem directions_stored {results : List (Except String SourceGossip)} {nodes : HashMap Node}
    {channels : List Channel} (h : mergeGossipResults results = .ok (nodes, channels)) :
    (∀ scid info, (storeChannels channels nodes).channelInfos.lookup scid = some info →
        (info.policies.map fun side => side.node.id).Nodup) ∧
      (∀ scid side, (∃ info, (storeChannels channels nodes).channelInfos.lookup scid = some info ∧
        side ∈ info.policies) ↔ ∃ destination list channel,
          (storeChannels channels nodes).channelsByDest.lookup destination = some list ∧
            channel ∈ list ∧ channel.shortChannelId = scid ∧ channel.side = side) ∧
      ∀ channel ∈ channels, ∃ first info side,
        channels.find? (fun other => other.key = channel.key) = some first ∧
          (storeChannels channels nodes).channelInfos.lookup channel.shortChannelId = some info ∧
          side ∈ info.policies ∧ side.node.id = channel.source.id ∧ side.policy = first.info := by
  obtain ⟨hnodes, -⟩ := of_mergeGossipResults h
  have hids : ∀ id node, nodes.lookup id = some node → node.id = id := by
    intro id node hnode
    rw [hnodes, lookup_nodes] at hnode
    exact id_of_mergedNode hnode
  refine ⟨fun scid info hinfo => ?_, fun scid side => ?_, fun channel hchannel => ?_⟩
  · rw [lookup_channelInfos] at hinfo
    rw [(channelInfo_eq_some hinfo).2, List.map_map]
    refine List.pairwise_map.mpr ?_
    refine ((directions_pairwise hids).filter _).imp_of_mem fun {a b} ha hb hne hid => hne ?_
    have ha' := of_decide_eq_true (List.mem_filter.mp ha).2
    have hb' := of_decide_eq_true (List.mem_filter.mp hb).2
    exact Prod.ext (ha'.trans hb'.symm) hid
  · rw [mem_policies]
    constructor
    · rintro ⟨channel, hmem, hscid, hside⟩
      obtain ⟨destination, list, hlist, hmem⟩ := mem_channelsByDest.mpr hmem
      exact ⟨destination, list, channel, hlist, hmem, hscid, hside⟩
    · rintro ⟨destination, list, channel, hlist, hmem, hscid, hside⟩
      exact ⟨channel, mem_channelsByDest.mp ⟨destination, list, hlist, hmem⟩, hscid, hside⟩
  · have hfirst : (channels.find? fun other => other.key = channel.key).isSome = true :=
      List.find?_isSome.mpr ⟨channel, hchannel, decide_eq_true rfl⟩
    obtain ⟨first, hfirst⟩ := Option.isSome_iff_exists.mp hfirst
    have hkey : first.key = channel.key := by simpa using List.find?_some hfirst
    have hmem : first ∈ firsts Channel.key channels := by
      rw [← find?_firsts Channel.key channels] at hfirst
      exact List.mem_of_find?_eq_some hfirst
    obtain ⟨henriched, hinfo⟩ := enrich_spec hids first
    have hscid : (enrich nodes first).shortChannelId = channel.shortChannelId :=
      congrArg Prod.fst (henriched.trans hkey)
    obtain ⟨info, hlookup, hside⟩ := mem_policies.mpr
      ⟨enrich nodes first, List.mem_map_of_mem hmem, hscid, rfl⟩
    exact ⟨first, info, _, hfirst, hlookup, hside, congrArg Prod.snd (henriched.trans hkey), hinfo⟩

theorem directions_stored_example : ∃ nodes channels,
    mergeGossipResults exampleResults = .ok (nodes, channels) ∧
      channels.map (fun channel => (channel.source.id, channel.info.feePpm)) =
        [("a", 1), ("a", 2), ("b", 3)] ∧
      (∀ info, (storeChannels channels nodes).channelInfos.lookup "1x2x3" = some info →
        (info.policies.map fun side => side.node.id).Nodup) ∧
      ∀ channel ∈ channels, ∃ first info side,
        channels.find? (fun other => other.key = channel.key) = some first ∧
          (storeChannels channels nodes).channelInfos.lookup channel.shortChannelId = some info ∧
          side ∈ info.policies ∧ side.node.id = channel.source.id ∧ side.policy = first.info := by
  obtain ⟨nodes, channels, h, hchannels⟩ : ∃ nodes channels,
      mergeGossipResults exampleResults = .ok (nodes, channels) ∧
        channels.map (fun channel => (channel.source.id, channel.info.feePpm)) =
          [("a", 1), ("a", 2), ("b", 3)] := ⟨_, _, rfl, rfl⟩
  obtain ⟨hnodup, -, hstored⟩ := directions_stored h
  exact ⟨nodes, channels, h, hchannels, hnodup "1x2x3", hstored⟩

end Boltz.Gossip
