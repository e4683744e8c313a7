import Boltz.Safety.OfferRegistry

/-!
# Who is asked for an invoice

Hooks are sent to connections that have signed for the offer, and a connection keeps an offer as
long as nobody takes it away.
-/

namespace Boltz.Offers

open Async Caches

variable {lib : Lib} {s s' : State lib} {op : Op lib}

/-! ## Owners -/

/-- The connection has shown a signature of the issuer of an offer with this hash. -/
def Proved (s : State lib) (connectionId : ConnectionId) (offer : String) (offerId : OfferId) :
    Prop :=
  ∃ key, hashOffer lib offer = .ok (key, offerId) ∧ (connectionId, key) ∈ s.subscribed

structure Owners (s : State lib) : Prop where
  subscribed : ∀ entry ∈ s.subscribed, ∃ signature,
    lib.verifySchnorr signature OFFER_SUBSCRIBE_MESSAGE entry.2 = true
  entries : ∀ {offerId offer connectionId}, s.allOffers offerId = some (offer, connectionId) →
    Proved s connectionId offer offerId ∧
      ∃ socket, s.sockets connectionId = some socket ∧ socket ≠ .pruned
  toInsert : ∀ {connectionId toInsert}, s.sockets connectionId = some (.subscribing toInsert) →
    ∀ entry ∈ toInsert, Proved s connectionId entry.1 entry.2
  known : ∀ connectionId, s.sockets connectionId = none ↔ s.offerSubscriptions connectionId = none

section

variable {connectionId : ConnectionId} {offer : String} {offerId : OfferId}

theorem Proved.mono (h : Proved s connectionId offer offerId)
    (hsubscribed : s.subscribed ⊆ s'.subscribed) : Proved s' connectionId offer offerId := by
  obtain ⟨key, hhash, hmem⟩ := h
  exact ⟨key, hhash, hsubscribed hmem⟩

theorem verifySubscription_ok {param : InvoiceRequestParams}
    {verified : lib.PublicKey × String × OfferId}
    (h : verifySubscription lib param = .ok verified) :
    hashOffer lib verified.2.1 = .ok (verified.1, verified.2.2) ∧ ∃ signature,
      lib.verifySchnorr signature OFFER_SUBSCRIBE_MESSAGE verified.1 = true := by
  obtain ⟨bytes, -, h⟩ := bind_eq_ok.mp h
  obtain ⟨⟨key, id⟩, hhash, h⟩ := bind_eq_ok.mp h
  obtain ⟨signature, -, h⟩ := bind_eq_ok.mp h
  split at h
  · rename_i hvalid
    cases h
    exact ⟨hhash, signature, hvalid⟩
  · cases h

theorem mem_of_mapM_ok {α β : Type} {f : α → Except String β} {l : List α} {l' : List β}
    (h : l.mapM f = .ok l') {b : β} (hb : b ∈ l') : ∃ a ∈ l, f a = .ok b := by
  induction l generalizing l' with
  | nil =>
    cases h
    cases hb
  | cons a l ih =>
    rw [List.mapM_cons] at h
    obtain ⟨b', hb', h⟩ := bind_eq_ok.mp h
    obtain ⟨rest, hrest, h⟩ := bind_eq_ok.mp h
    cases h
    rcases List.mem_cons.mp hb with rfl | hb
    · exact ⟨a, List.mem_cons_self, hb'⟩
    · obtain ⟨a', ha', hf⟩ := ih hrest hb
      exact ⟨a', List.mem_cons_of_mem a ha', hf⟩

theorem removeIfOwned_eq_some {allOffers : OfferId → Option (String × ConnectionId)}
    {removed : OfferId} {owner : ConnectionId} {entry : String × ConnectionId}
    (h : removeIfOwned allOffers removed owner offerId = some entry) :
    allOffers offerId = some entry ∧ (offerId = removed → entry.2 ≠ owner) := by
  unfold removeIfOwned at h
  split at h
  · by_cases hid : offerId = removed
    · rw [hid, Function.update_self] at h
      cases h
    · rw [Function.update_of_ne hid] at h
      exact ⟨h, fun heq => absurd heq hid⟩
  · rename_i howned
    refine ⟨h, ?_⟩
    rintro rfl howner
    exact howned (by rw [h]; exact decide_eq_true howner)

theorem Owners.init : Owners (.init lib) where
  subscribed := fun _ h => absurd h List.not_mem_nil
  entries := fun h => nomatch h
  toInsert := fun h => nomatch h
  known := fun _ => iff_of_true rfl rfl

/-- A step that only removes entries. -/
theorem Owners.congr (hi : Owners s)
    (hallOffers : ∀ {offerId entry}, s'.allOffers offerId = some entry →
      s.allOffers offerId = some entry)
    (hsockets : s'.sockets = s.sockets) (hsubscribed : s'.subscribed = s.subscribed)
    (hsubscriptions : s'.offerSubscriptions = s.offerSubscriptions) : Owners s' where
  subscribed := hsubscribed ▸ hi.subscribed
  entries := by
    intro offerId offer connectionId h
    obtain ⟨hproved, hopen⟩ := hi.entries (hallOffers h)
    exact ⟨hproved.mono (hsubscribed ▸ List.Subset.refl _), hsockets ▸ hopen⟩
  toInsert := by
    rw [hsockets]
    exact fun h entry hentry =>
      (hi.toInsert h entry hentry).mono (hsubscribed ▸ List.Subset.refl _)
  known := by
    rw [hsockets, hsubscriptions]
    exact hi.known

/-- A connection goes to another state. What it inserts then was proved, and it has no offers left
if it was pruned. -/
theorem Owners.setSocket (hi : Owners s) (socket : Socket)
    (hknown : s.sockets connectionId ≠ none)
    (hinserts : ∀ toInsert, socket = .subscribing toInsert →
      ∀ entry ∈ toInsert, Proved s connectionId entry.1 entry.2)
    (hallOffers : ∀ {offerId entry}, s'.allOffers offerId = some entry →
      s.allOffers offerId = some entry ∧ (entry.2 = connectionId → socket ≠ .pruned))
    (hsockets : s'.sockets = Function.update s.sockets connectionId (some socket))
    (hsubscribed : s'.subscribed = s.subscribed)
    (hsubscriptions : s'.offerSubscriptions = s.offerSubscriptions) : Owners s' where
  subscribed := hsubscribed ▸ hi.subscribed
  entries := by
    intro offerId offer owner h
    obtain ⟨h, hpruned⟩ := hallOffers h
    obtain ⟨hproved, hopen⟩ := hi.entries h
    refine ⟨hproved.mono (hsubscribed ▸ List.Subset.refl _), ?_⟩
    rw [hsockets]
    by_cases howner : owner = connectionId
    · exact ⟨socket, by rw [howner, Function.update_self], hpruned howner⟩
    · rwa [Function.update_of_ne howner]
  toInsert := by
    intro owner toInsert h entry hentry
    refine Proved.mono ?_ (hsubscribed ▸ List.Subset.refl _ : s.subscribed ⊆ s'.subscribed)
    rw [hsockets] at h
    by_cases howner : owner = connectionId
    · rw [howner, Function.update_self] at h
      exact howner ▸ hinserts toInsert (Option.some.inj h) entry hentry
    · rw [Function.update_of_ne howner] at h
      exact hi.toInsert h entry hentry
  known := by
    intro owner
    rw [hsockets, hsubscriptions]
    by_cases howner : owner = connectionId
    · rw [howner, Function.update_self]
      exact iff_of_false (fun h => nomatch h) fun h => hknown ((hi.known connectionId).mpr h)
    · rw [Function.update_of_ne howner]
      exact hi.known owner

/-- Signatures that were verified. -/
theorem Owners.subscribe (hi : Owners s) (connectionId : ConnectionId) (keys : List lib.PublicKey)
    (hkeys : ∀ key ∈ keys, ∃ signature,
      lib.verifySchnorr signature OFFER_SUBSCRIBE_MESSAGE key = true) :
    Owners { s with subscribed := s.subscribed ++ keys.map fun key => (connectionId, key) } where
  subscribed := by
    intro entry hentry
    rcases List.mem_append.mp hentry with hentry | hentry
    · exact hi.subscribed entry hentry
    · obtain ⟨key, hkey, rfl⟩ := List.mem_map.mp hentry
      exact hkeys key hkey
  entries := fun h => by
    obtain ⟨hproved, hopen⟩ := hi.entries h
    exact ⟨hproved.mono (List.subset_append_left _ _), hopen⟩
  toInsert := fun h entry hentry =>
    (hi.toInsert h entry hentry).mono (List.subset_append_left _ _)
  known := hi.known

/-- An entry that was proved, of a connection that is open. -/
theorem Owners.insert (hi : Owners s) (hproved : Proved s connectionId offer offerId)
    {socket : Socket} (hsocket : s.sockets connectionId = some socket)
    (hopen : socket ≠ .pruned) :
    Owners
      { s with
        allOffers := Function.update s.allOffers offerId (some (offer, connectionId)) } where
  subscribed := hi.subscribed
  entries := by
    intro id text owner h
    by_cases hid : id = offerId
    · subst hid
      dsimp only at h
      rw [Function.update_self] at h
      cases h
      exact ⟨hproved, socket, hsocket, hopen⟩
    · dsimp only at h
      rw [Function.update_of_ne hid] at h
      exact hi.entries h
  toInsert := hi.toInsert
  known := hi.known

theorem ne_none_of_eq_some {α : Type} {o : Option α} {a : α} (h : o = some a) : o ≠ none :=
  fun hnone => nomatch hnone.symm.trans h

theorem Owners.serves (hi : Owners s) (h : s.Serves connectionId op s') : Owners s' := by
  cases h with
  | refused => exact hi
  | turned _ hsocket hopen hnext =>
    refine hi.setSocket _ (ne_none_of_eq_some hsocket) ?_ ?_ rfl rfl rfl
    · rintro toInsert rfl
      rcases hnext with hnext | ⟨offers, hnext⟩
      · cases hnext
      · cases hnext
    · refine fun h => ⟨h, ?_⟩
      rintro - rfl
      rcases hnext with hnext | ⟨offers, hnext⟩
      · cases hnext
      · cases hnext
  | subscribed hsocket =>
    unfold State.subscribe
    split
    · exact hi
    · rename_i verified hverified
      have hvalid : ∀ entry ∈ verified, hashOffer lib entry.2.1 = .ok (entry.1, entry.2.2) ∧
          ∃ signature, lib.verifySchnorr signature OFFER_SUBSCRIBE_MESSAGE entry.1 = true := by
        intro entry hentry
        obtain ⟨param, -, hparam⟩ := mem_of_mapM_ok hverified hentry
        exact verifySubscription_ok hparam
      have hi' := hi.subscribe connectionId (verified.map (·.1)) <| by
        intro key hkey
        obtain ⟨entry, hentry, rfl⟩ := List.mem_map.mp hkey
        exact (hvalid entry hentry).2
      dsimp only
      split
      · refine hi'.setSocket (.subscribing (verified.map (·.2))) (ne_none_of_eq_some hsocket) ?_ ?_
          rfl rfl rfl
        · rintro toInsert ⟨⟩ entry hentry
          obtain ⟨full, hfull, rfl⟩ := List.mem_map.mp hentry
          refine ⟨full.1, (hvalid full hfull).1, List.mem_append_right _ ?_⟩
          exact List.mem_map_of_mem (List.mem_map_of_mem hfull)
        · exact fun h => ⟨h, fun _ hpruned => nomatch hpruned⟩
      · exact hi'
  | inserted hsocket =>
    have hproved := hi.toInsert hsocket
    refine (hi.insert (hproved _ List.mem_cons_self) hsocket
      fun hpruned => nomatch hpruned).setSocket (.subscribing _) (ne_none_of_eq_some hsocket) ?_ ?_
      rfl rfl rfl
    · rintro toInsert ⟨⟩ entry hentry
      exact hproved entry (List.mem_cons_of_mem _ hentry)
    · exact fun h => ⟨h, fun _ hpruned => nomatch hpruned⟩
  | removed hsocket hhash =>
    refine hi.setSocket (.unsubscribing _) (ne_none_of_eq_some hsocket) (fun _ h => nomatch h) ?_
      rfl rfl rfl
    exact fun h => ⟨(removeIfOwned_eq_some h).1, fun _ hpruned => nomatch hpruned⟩
  | delivered hchannel hhooks => exact hi.congr (fun h => h) rfl rfl rfl
  | closed hsocket =>
    refine hi.setSocket .closing (ne_none_of_eq_some hsocket) (fun _ h => nomatch h) ?_
      rfl rfl rfl
    exact fun h => ⟨h, fun _ hpruned => nomatch hpruned⟩
  | pruned hsocket =>
    refine hi.setSocket .pruned (ne_none_of_eq_some hsocket) (fun _ h => nomatch h) ?_
      rfl rfl rfl
    intro offerId entry h
    obtain ⟨h, hother⟩ := Option.filter_eq_some_iff.mp h
    exact ⟨h, fun howner => absurd howner (of_decide_eq_true hother)⟩
  | forgotten hsocket =>
    refine ⟨hi.subscribed, fun {id text owner} h => ?_, fun {owner toInsert} h => ?_,
      fun owner => ?_⟩
    · obtain ⟨hproved, socket, hopen, hpruned⟩ := hi.entries h
      refine ⟨hproved, socket, ?_, hpruned⟩
      have hother : owner ≠ connectionId := by
        rintro rfl
        exact hpruned (Option.some.inj (hopen.symm.trans hsocket))
      exact (Function.update_of_ne hother _ _).trans hopen
    · by_cases howner : owner = connectionId
      · subst howner
        cases (Function.update_self ..).symm.trans h
      · exact hi.toInsert ((Function.update_of_ne howner _ _).symm.trans h)
    · by_cases howner : owner = connectionId
      · subst howner
        exact iff_of_true (Function.update_self ..) (Function.update_self ..)
      · have hknown := hi.known owner
        rwa [← Function.update_of_ne howner (none : Option Socket) s.sockets,
          ← Function.update_of_ne howner (none : Option Channel) s.offerSubscriptions] at hknown

theorem Owners.connect (hi : Owners s) (hnone : s.offerSubscriptions connectionId = none) :
    Owners (s.connect connectionId) where
  subscribed := hi.subscribed
  entries := by
    intro id text owner h
    obtain ⟨hproved, socket, hopen, hpruned⟩ := hi.entries h
    refine ⟨hproved, socket, ?_, hpruned⟩
    have hother : owner ≠ connectionId := by
      rintro rfl
      exact ne_none_of_eq_some hopen ((hi.known owner).mpr hnone)
    exact (Function.update_of_ne hother _ _).trans hopen
  toInsert := by
    intro owner toInsert h
    by_cases howner : owner = connectionId
    · subst howner
      cases (Function.update_self ..).symm.trans h
    · exact hi.toInsert ((Function.update_of_ne howner _ _).symm.trans h)
  known := by
    intro owner
    by_cases howner : owner = connectionId
    · subst howner
      refine iff_of_false ?_ ?_
      · exact ne_none_of_eq_some (Function.update_self ..)
      · exact ne_none_of_eq_some (Function.update_self ..)
    · have hknown := hi.known owner
      rwa [← Function.update_of_ne howner (some Socket.idle) s.sockets,
        ← Function.update_of_ne howner
          (some { connection := connectionId, number := s.opened : Channel })
          s.offerSubscriptions] at hknown

/-- Calls only remove entries. -/
theorem Call.Moves.subscriptions {shared shared' : Shared} {call call' : Call lib}
    (h : call.Moves shared shared' call') :
    shared'.offerSubscriptions = shared.offerSubscriptions ∧
      ∀ {offerId entry}, shared'.allOffers offerId = some entry →
        shared.allOffers offerId = some entry := by
  cases h with
  | cleaned hstage =>
    unfold Call.cleanup
    split
    · exact ⟨rfl, fun h => (removeIfOwned_eq_some h).1⟩
    · exact ⟨rfl, fun h => h⟩
  | _ => exact ⟨rfl, fun h => h⟩

theorem Owners.step (hi : Owners s) (h : s.Moves op s') : Owners s' := by
  cases h with
  | connected hnone => exact hi.connect hnone
  | served h => exact hi.serves h
  | called _ h => exact hi.congr h.subscriptions.2 rfl rfl h.subscriptions.1
  | _ => exact hi.congr (fun h => h) rfl rfl rfl

/-! ## Hooks -/

/-- The connection has shown a signature of a key that has the same hash as the issuer of the offer
that the hook is for. -/
def Answers (s : State lib) (connectionId : ConnectionId) (hook : InvoiceHook) : Prop :=
  ∃ issuer key, lib.decode hook.offer = .ok (.offer (some issuer)) ∧
    lib.hashKey issuer = lib.hashKey key ∧ (connectionId, key) ∈ s.subscribed

/-- The connection that a call turns to. -/
def Call.owner (call : Call lib) : Option ConnectionId :=
  match call.stage with
  | .owned connectionId | .lost connectionId => some connectionId
  | .reaching sender | .sending sender _ => some sender.connection
  | _ => none

structure Hooks (s : State lib) : Prop where
  subscriptions : ∀ {connectionId channel}, s.offerSubscriptions connectionId = some channel →
    channel.connection = connectionId
  channels : ∀ {channel hooks}, s.channels channel = some hooks →
    ∀ hook ∈ hooks, Answers s channel.connection hook
  calls : ∀ call ∈ s.calls, ∀ connectionId ∈ call.owner, Answers s connectionId call.hook
  delivered : ∀ entry ∈ s.delivered, Answers s entry.1 entry.2

theorem hashOffer_ok {text : String} {key : lib.PublicKey} {id : OfferId}
    (h : hashOffer lib text = .ok (key, id)) :
    lib.decode text = .ok (.offer (some key)) ∧ id = lib.hashKey key := by
  obtain ⟨invoice, hdecode, h⟩ := bind_eq_ok.mp h
  split at h
  · cases h
    exact ⟨hdecode, rfl⟩
  · cases h
  · cases h

theorem Answers.mono {hook : InvoiceHook} (h : Answers s connectionId hook)
    (hsubscribed : s.subscribed ⊆ s'.subscribed) : Answers s' connectionId hook := by
  obtain ⟨issuer, key, hdecode, hhash, hmem⟩ := h
  exact ⟨issuer, key, hdecode, hhash, hsubscribed hmem⟩

/-- Who is found for a hook has signed. -/
theorem Owners.answers (hi : Owners s) {hook : InvoiceHook}
    (hid : offerIdOf lib hook.offer = some offerId)
    (hentry : s.allOffers offerId = some (offer, connectionId)) :
    Answers s connectionId hook := by
  obtain ⟨⟨key, hhash, hmem⟩, -⟩ := hi.entries hentry
  rw [offerIdOf, Option.map_eq_some_iff] at hid
  obtain ⟨⟨issuer, id⟩, hissuer, rfl⟩ := hid
  cases hhook : hashOffer lib hook.offer with
  | error e =>
    rw [hhook] at hissuer
    cases hissuer
  | ok found =>
    rw [hhook] at hissuer
    cases hissuer
    obtain ⟨hdecode, hsame⟩ := hashOffer_ok hhook
    exact ⟨issuer, key, hdecode, hsame.symm.trans (hashOffer_ok hhash).2, hmem⟩

theorem Hooks.init : Hooks (.init lib) where
  subscriptions := fun h => nomatch h
  channels := fun h => nomatch h
  calls := fun _ h => absurd h List.not_mem_nil
  delivered := fun _ h => absurd h List.not_mem_nil

/-- A step that adds no hook. -/
theorem Hooks.congr (hi : Hooks s) (hsubscribed : s.subscribed ⊆ s'.subscribed)
    (hsubscriptions : ∀ {connectionId channel},
      s'.offerSubscriptions connectionId = some channel →
        s.offerSubscriptions connectionId = some channel)
    (hchannels : ∀ {channel hooks}, s'.channels channel = some hooks →
      s.channels channel = some hooks)
    (hcalls : ∀ call ∈ s'.calls, ∀ connectionId ∈ call.owner, Answers s connectionId call.hook)
    (hdelivered : s'.delivered = s.delivered) : Hooks s' where
  subscriptions := fun h => hi.subscriptions (hsubscriptions h)
  channels := fun h hook hhook => (hi.channels (hchannels h) hook hhook).mono hsubscribed
  calls := fun call hcall connectionId howner =>
    (hcalls call hcall connectionId howner).mono hsubscribed
  delivered := by
    rw [hdelivered]
    exact fun entry hentry => (hi.delivered entry hentry).mono hsubscribed

theorem subset_subscribe (s : State lib) (connectionId : ConnectionId)
    (offers : List InvoiceRequestParams) :
    s.subscribed ⊆ (s.subscribe connectionId offers).subscribed ∧
      (s.subscribe connectionId offers).offerSubscriptions = s.offerSubscriptions ∧
      (s.subscribe connectionId offers).channels = s.channels ∧
      (s.subscribe connectionId offers).calls = s.calls ∧
      (s.subscribe connectionId offers).delivered = s.delivered := by
  unfold State.subscribe
  split
  · exact ⟨List.Subset.refl _, rfl, rfl, rfl, rfl⟩
  · dsimp only
    split
    · exact ⟨List.subset_append_left _ _, rfl, rfl, rfl, rfl⟩
    · exact ⟨List.subset_append_left _ _, rfl, rfl, rfl, rfl⟩

theorem Hooks.serves (hi : Hooks s) (h : s.Serves connectionId op s') : Hooks s' := by
  have hsubset := List.Subset.refl s.subscribed
  cases h with
  | @subscribed offers hsocket =>
    obtain ⟨hsubscribed, hsubscriptions, hchannels, hcalls, hdelivered⟩ :=
      subset_subscribe s connectionId offers
    refine hi.congr hsubscribed (fun h => hsubscriptions ▸ h) (fun h => hchannels ▸ h) ?_ hdelivered
    rw [hcalls]
    exact hi.calls
  | @delivered channel hook hooks hchannel hhooks =>
    have hqueued := hi.channels hhooks
    refine ⟨hi.subscriptions, fun {other rest} h other' hother => ?_, hi.calls,
      fun entry hentry => ?_⟩
    · by_cases hsame : other = channel
      · subst hsame
        cases (Function.update_self ..).symm.trans h
        exact hqueued other' (List.mem_cons_of_mem _ hother)
      · exact hi.channels ((Function.update_of_ne hsame _ _).symm.trans h) other' hother
    · rcases List.mem_append.mp hentry with hentry | hentry
      · exact hi.delivered entry hentry
      · rw [List.mem_singleton.mp hentry]
        have hanswers := hqueued hook List.mem_cons_self
        rw [hi.subscriptions hchannel] at hanswers
        exact hanswers
  | @closed channel hsocket =>
    refine hi.congr hsubset (fun h => h) (fun {other hooks} h => ?_) hi.calls rfl
    by_cases hsame : other = channel
    · subst hsame
      cases (Function.update_self ..).symm.trans h
    · exact (Function.update_of_ne hsame _ _).symm.trans h
  | forgotten hsocket =>
    refine hi.congr hsubset (fun {owner channel} h => ?_) (fun h => h) hi.calls rfl
    by_cases howner : owner = connectionId
    · subst howner
      cases (Function.update_self ..).symm.trans h
    · exact (Function.update_of_ne howner _ _).symm.trans h
  | _ => exact hi.congr hsubset (fun h => h) (fun h => h) hi.calls rfl

theorem Hooks.connect (hi : Hooks s) : Hooks (s.connect connectionId) where
  subscriptions := by
    intro owner channel h
    by_cases howner : owner = connectionId
    · subst howner
      cases (Function.update_self ..).symm.trans h
      rfl
    · exact hi.subscriptions ((Function.update_of_ne howner _ _).symm.trans h)
  channels := by
    intro channel hooks h hook hhook
    by_cases hsame : channel = { connection := connectionId, number := s.opened }
    · subst hsame
      cases (Function.update_self ..).symm.trans h
      cases hhook
    · exact hi.channels ((Function.update_of_ne hsame _ _).symm.trans h) hook hhook
  calls := hi.calls
  delivered := hi.delivered

section

variable {shared : Shared} {call call' : Call lib}

theorem Call.Moves.kept (h : call.Moves s.toShared shared call') :
    call'.hook = call.hook ∧ call'.row = call.row := by
  cases h <;> exact ⟨rfl, rfl⟩

/-- Calls turn to owners, and only send their hook to them. -/
theorem Hooks.called (howners : Owners s) (hi : Hooks s) {i : Nat} (hcall : s.calls[i]? = some call)
    (h : call.Moves s.toShared shared call') :
    Hooks { s with toShared := shared, calls := s.calls.set i call' } := by
  have hmem := List.mem_of_getElem? hcall
  have hcalls : (∀ connectionId ∈ call'.owner, Answers s connectionId call'.hook) →
      ∀ other ∈ s.calls.set i call', ∀ connectionId ∈ other.owner,
        Answers s connectionId other.hook := by
    intro hnew other hother
    rcases List.mem_or_eq_of_mem_set hother with hother | rfl
    · exact hi.calls other hother
    · exact hnew
  have hsame : call'.owner = none ∨ call'.owner = call.owner →
      ∀ connectionId ∈ call'.owner, Answers s connectionId call'.hook := by
    rintro (hnone | hsame) owner howner
    · rw [hnone] at howner
      cases howner
    · rw [hsame] at howner
      rw [h.kept.1]
      exact hi.calls call hmem owner howner
  have hsubset := List.Subset.refl s.subscribed
  cases h with
  | owned hstage hid hentry =>
    refine hi.congr hsubset (fun h => h) (fun h => h) (hcalls ?_) rfl
    rintro owner ⟨⟩
    exact howners.answers hid hentry
  | found hstage hsender =>
    refine hi.congr hsubset (fun h => h) (fun h => h) (hcalls ?_) rfl
    rintro owner ⟨⟩
    refine hi.calls call hmem _ ?_
    rw [Call.owner, hstage, hi.subscriptions hsender]
    rfl
  | lost hstage hnone =>
    refine hi.congr hsubset (fun h => h) (fun h => h) (hcalls (hsame (.inr ?_))) rfl
    rw [Call.owner, Call.owner, hstage]
  | cleaned hstage =>
    have hcleaned := hcalls (hsame (.inl rfl))
    have hsubs : ∀ c, (call.cleanup s.toShared c).offerSubscriptions = s.offerSubscriptions ∧
        (call.cleanup s.toShared c).channels = s.channels := by
      intro c
      unfold Call.cleanup
      split
      · exact ⟨rfl, rfl⟩
      · exact ⟨rfl, rfl⟩
    exact hi.congr hsubset (fun h => (hsubs _).1 ▸ h) (fun h => (hsubs _).2 ▸ h) hcleaned rfl
  | inserted hstage =>
    refine hi.congr hsubset (fun h => h) (fun h => h) (hcalls (hsame (.inr ?_))) rfl
    rw [Call.owner, Call.owner, hstage]
  | @sent sender since hooks hstage hchannel =>
    refine ⟨hi.subscriptions, fun {channel rest} h hook hhook => ?_, hcalls (hsame (.inl rfl)),
      hi.delivered⟩
    by_cases hchannels : channel = sender
    · subst hchannels
      cases (Function.update_self ..).symm.trans h
      rcases List.mem_append.mp hhook with hhook | hhook
      · exact hi.channels hchannel hook hhook
      · rw [List.mem_singleton.mp hhook]
        refine hi.calls call hmem _ ?_
        rw [Call.owner, hstage]
        rfl
    · exact hi.channels ((Function.update_of_ne hchannels _ _).symm.trans h) hook hhook
  | skipped hstage _ _ =>
    refine hi.congr hsubset (fun h => h) (fun h => h) (hcalls (hsame (.inr rfl))) rfl
  | skippedCall hstage =>
    refine hi.congr hsubset (fun h => h) (fun h => h) (hcalls (hsame (.inr rfl))) rfl
  | _ => exact hi.congr hsubset (fun h => h) (fun h => h) (hcalls (hsame (.inl rfl))) rfl

theorem Call.addResponse_owner (call : Call lib) (response : InvoiceResponse) :
    (call.addResponse response).owner = call.owner ∧
      (call.addResponse response).hook = call.hook := by
  unfold Call.addResponse
  split
  · exact ⟨rfl, rfl⟩
  · exact ⟨rfl, rfl⟩

theorem Call.addSuccessfulCall_owner (call : Call lib) (success : InvoiceHook × Bytes) :
    (call.addSuccessfulCall success).owner = call.owner ∧
      (call.addSuccessfulCall success).hook = call.hook := by
  unfold Call.addSuccessfulCall
  split
  · exact ⟨rfl, rfl⟩
  · exact ⟨rfl, rfl⟩

/-- What is sent to calls does not change where they turn to. -/
theorem Hooks.mapCalls (hi : Hooks s) {f : Call lib → Call lib}
    (hf : ∀ call, (f call).owner = call.owner ∧ (f call).hook = call.hook) :
    ∀ call ∈ s.calls.map f, ∀ connectionId ∈ call.owner, Answers s connectionId call.hook := by
  intro call hcall connectionId howner
  obtain ⟨old, hold, rfl⟩ := List.mem_map.mp hcall
  rw [(hf old).1] at howner
  rw [(hf old).2]
  exact hi.calls old hold connectionId howner

theorem Hooks.step (howners : Owners s) (hi : Hooks s) (h : s.Moves op s') : Hooks s' := by
  have hsubset := List.Subset.refl s.subscribed
  cases h with
  | connected hnone => exact hi.connect
  | served h => exact hi.serves h
  | @broadcast i response hanswer =>
    exact hi.congr hsubset (fun h => h) (fun h => h)
      (hi.mapCalls fun call => call.addResponse_owner response) rfl
  | started hop hrow =>
    refine hi.congr hsubset (fun h => h) (fun h => h) (fun call hcall => ?_) rfl
    rcases List.mem_append.mp hcall with hcall | hcall
    · exact hi.calls call hcall
    · rw [List.mem_singleton.mp hcall]
      exact fun _ howner => nomatch howner
  | called hcall h => exact hi.called howners hcall h
  | webhook success =>
    exact hi.congr hsubset (fun h => h) (fun h => h)
      (hi.mapCalls fun call => call.addSuccessfulCall_owner success) rfl
  | _ => exact hi.congr hsubset (fun h => h) (fun h => h) hi.calls rfl

end

end

/-- Who owns an offer is connected and has signed with the key of the offer. Hooks are sent to
clients that have signed with a key of the hash of the issuer only. -/
theorem hooks_sent_to_signers (hlaw : Lawful lib) {ops : List (Op lib)}
    (h : runFrom step anyOp (.init lib) ops = some s) :
    (∀ offerId offer connectionId, s.allOffers offerId = some (offer, connectionId) →
      Proved s connectionId offer offerId ∧
        ∃ socket, s.sockets connectionId = some socket ∧ socket ≠ .pruned) ∧
    (∀ entry ∈ s.delivered, Answers s entry.1 entry.2) ∧
    ∀ entry ∈ s.subscribed, ∃ signature,
      lib.verifySchnorr signature OFFER_SUBSCRIBE_MESSAGE entry.2 = true := by
  obtain ⟨howners, hhooks⟩ := invariant_of_run hlaw (fun s => Owners s ∧ Hooks s)
    (fun _ _ _ ⟨howners, hhooks⟩ _ h => ⟨howners.step h, hhooks.step howners h⟩)
    ⟨Owners.init, Hooks.init⟩ h
  exact ⟨fun _ _ _ h => howners.entries h, hhooks.delivered, howners.subscribed⟩

/-- Connection 7 subscribes to an offer and is sent a hook for it. -/
def exampleSubscription : List (Op exampleLib) :=
  [.connect 7, .subscribe 7 [{ offer := "lno1", signature := "01" }], .insertNext 7, .insertNext 7]

def exampleRequest : List (Op exampleLib) :=
  [.addOffer "lno1" none, .execute 0, .fetch "lno1" [1], .call 0 .lookup, .call 0 .lookupSender,
    .call 0 .insertPending, .call 0 .send]

theorem hooks_sent_to_signers_example : ∃ s : State exampleLib,
    runFrom step anyOp (.init exampleLib) (exampleSubscription ++ exampleRequest ++ [.deliver 7]) =
      some s ∧
    s.delivered = [(7, { offer := "lno1", invoiceRequest := "01" })] ∧
    (∀ offerId offer connectionId, s.allOffers offerId = some (offer, connectionId) →
      Proved s connectionId offer offerId ∧
        ∃ socket, s.sockets connectionId = some socket ∧ socket ≠ .pruned) ∧
    (∀ entry ∈ s.delivered, Answers s entry.1 entry.2) ∧
    ∀ entry ∈ s.subscribed, ∃ signature,
      exampleLib.verifySchnorr signature OFFER_SUBSCRIBE_MESSAGE entry.2 = true := by
  obtain ⟨s, h, hdelivered⟩ : ∃ s : State exampleLib,
      runFrom step anyOp (.init exampleLib)
        (exampleSubscription ++ exampleRequest ++ [.deliver 7]) = some s ∧
      s.delivered = [(7, { offer := "lno1", invoiceRequest := "01" })] := ⟨_, rfl, rfl⟩
  exact ⟨s, h, hdelivered, hooks_sent_to_signers lawful_exampleLib h⟩

/-! ## Ownership is kept -/

/-- No connection gets the id of an earlier one. -/
def freshIds (s : State lib) : Op lib → Bool
  | .connect connectionId => connectionId ∉ s.connected
  | _ => true

/-- Operations that take an offer away from its owner: another subscription to an offer with the
hash, and the owner unsubscribing or going away. -/
def takesAway (s : State lib) (offerId : OfferId) (owner : ConnectionId) : Op lib → Bool
  | .insertNext connectionId =>
    match s.sockets connectionId with
    | some (.subscribing ((_, inserted) :: _)) => inserted = offerId
    | _ => false
  | .removeNext connectionId =>
    connectionId = owner &&
      match s.sockets connectionId with
      | some (.unsubscribing (offer :: _)) => offerIdOf lib offer = some offerId
      | _ => false
  | .prune connectionId => connectionId = owner
  | _ => false

/-- Connections that calls have found to be gone stay away. -/
structure Gone (s : State lib) : Prop where
  sockets : ∀ {connectionId socket}, s.sockets connectionId = some socket →
    connectionId ∈ s.connected
  owned : ∀ call ∈ s.calls, ∀ connectionId, call.stage = .owned connectionId →
    connectionId ∈ s.connected
  lost : ∀ call ∈ s.calls, ∀ connectionId, call.stage = .lost connectionId →
    connectionId ∈ s.connected ∧ s.sockets connectionId = none

section

variable {connectionId : ConnectionId}

theorem Gone.init : Gone (.init lib) where
  sockets := fun h => nomatch h
  owned := fun _ h => absurd h List.not_mem_nil
  lost := fun _ h => absurd h List.not_mem_nil

theorem Gone.congr (hi : Gone s) (hconnected : s'.connected = s.connected)
    (hsockets : ∀ {connectionId}, s.sockets connectionId = none ↔ s'.sockets connectionId = none)
    (hcalls : ∀ call ∈ s'.calls, (∀ connectionId, call.stage = .owned connectionId →
        connectionId ∈ s.connected) ∧
      ∀ connectionId, call.stage = .lost connectionId →
        connectionId ∈ s.connected ∧ s.sockets connectionId = none) : Gone s' where
  sockets := by
    intro connectionId socket h
    rw [hconnected]
    cases hold : s.sockets connectionId with
    | none => cases (hsockets.mp hold).symm.trans h
    | some old => exact hi.sockets hold
  owned := by
    rw [hconnected]
    exact fun call hcall => (hcalls call hcall).1
  lost := by
    rw [hconnected]
    exact fun call hcall connectionId hlost =>
      ⟨((hcalls call hcall).2 connectionId hlost).1,
        hsockets.mp ((hcalls call hcall).2 connectionId hlost).2⟩

theorem Gone.calls (hi : Gone s) : ∀ call ∈ s.calls,
    (∀ connectionId, call.stage = .owned connectionId → connectionId ∈ s.connected) ∧
      ∀ connectionId, call.stage = .lost connectionId →
        connectionId ∈ s.connected ∧ s.sockets connectionId = none :=
  fun call hcall => ⟨hi.owned call hcall, hi.lost call hcall⟩

theorem none_iff_update {socket : Socket} (hknown : s.sockets connectionId ≠ none)
    {other : ConnectionId} : s.sockets other = none ↔
      (Function.update s.sockets connectionId (some socket)) other = none := by
  by_cases hother : other = connectionId
  · subst hother
    rw [Function.update_self]
    exact iff_of_false hknown fun h => nomatch h
  · rw [Function.update_of_ne hother]

theorem Gone.serves (hi : Gone s) (h : s.Serves connectionId op s') : Gone s' := by
  cases h with
  | refused => exact hi
  | turned _ hsocket hopen hnext =>
    exact hi.congr rfl (none_iff_update (ne_none_of_eq_some hsocket)) hi.calls
  | subscribed hsocket =>
    unfold State.subscribe
    split
    · exact hi
    · dsimp only
      split
      · exact hi.congr rfl (none_iff_update (ne_none_of_eq_some hsocket)) hi.calls
      · exact hi.congr rfl Iff.rfl hi.calls
  | inserted hsocket =>
    exact hi.congr rfl (none_iff_update (ne_none_of_eq_some hsocket)) hi.calls
  | removed hsocket hhash =>
    exact hi.congr rfl (none_iff_update (ne_none_of_eq_some hsocket)) hi.calls
  | delivered hchannel hhooks => exact hi.congr rfl Iff.rfl hi.calls
  | closed hsocket =>
    exact hi.congr rfl (none_iff_update (ne_none_of_eq_some hsocket)) hi.calls
  | pruned hsocket =>
    exact hi.congr rfl (none_iff_update (ne_none_of_eq_some hsocket)) hi.calls
  | forgotten hsocket =>
    refine ⟨fun {owner socket} h => ?_, hi.owned, fun call hcall owner hlost => ?_⟩
    · by_cases howner : owner = connectionId
      · subst howner
        exact hi.sockets hsocket
      · exact hi.sockets ((Function.update_of_ne howner _ _).symm.trans h)
    · obtain ⟨hconnected, hnone⟩ := hi.lost call hcall owner hlost
      refine ⟨hconnected, ?_⟩
      by_cases howner : owner = connectionId
      · subst howner
        exact Function.update_self ..
      · exact (Function.update_of_ne howner _ _).trans hnone

theorem Gone.step (howners : Owners s) (hi : Gone s) (hfresh : freshIds s op = true)
    (h : s.Moves op s') : Gone s' := by
  cases h with
  | @connected connectionId hnone =>
    have hnew : connectionId ∉ s.connected := of_decide_eq_true hfresh
    refine ⟨fun {owner socket} h => ?_, fun call hcall owner howned => ?_,
      fun call hcall owner hlost => ?_⟩
    · by_cases howner : owner = connectionId
      · rw [howner]
        exact List.mem_append_right _ (List.mem_singleton_self _)
      · exact List.mem_append_left _
          (hi.sockets ((Function.update_of_ne howner _ _).symm.trans h))
    · exact List.mem_append_left _ (hi.owned call hcall owner howned)
    · obtain ⟨hconnected, hgone⟩ := hi.lost call hcall owner hlost
      refine ⟨List.mem_append_left _ hconnected, ?_⟩
      have howner : owner ≠ connectionId := by
        rintro rfl
        exact hnew hconnected
      exact (Function.update_of_ne howner _ _).trans hgone
  | served h => exact hi.serves h
  | @broadcast i response hanswer =>
    refine hi.congr rfl Iff.rfl fun call hcall => ?_
    obtain ⟨old, hold, rfl⟩ := List.mem_map.mp hcall
    have hstage : (old.addResponse response).stage = old.stage := by
      unfold Call.addResponse
      split
      · rfl
      · rfl
    rw [hstage]
    exact hi.calls old hold
  | webhook success =>
    refine hi.congr rfl Iff.rfl fun call hcall => ?_
    obtain ⟨old, hold, rfl⟩ := List.mem_map.mp hcall
    have hstage : (old.addSuccessfulCall success).stage = old.stage := by
      unfold Call.addSuccessfulCall
      split
      · rfl
      · rfl
    rw [hstage]
    exact hi.calls old hold
  | started hop hrow =>
    refine hi.congr rfl Iff.rfl fun call hcall => ?_
    rcases List.mem_append.mp hcall with hcall | hcall
    · exact hi.calls call hcall
    · rw [List.mem_singleton.mp hcall]
      exact ⟨fun _ h => (nomatch h), fun _ h => nomatch h⟩
  | @called i callOp call call' shared hcall h =>
    have hmem := List.mem_of_getElem? hcall
    have hset : ((∀ connectionId, call'.stage = .owned connectionId →
          connectionId ∈ s.connected) ∧
        ∀ connectionId, call'.stage = .lost connectionId →
          connectionId ∈ s.connected ∧ s.sockets connectionId = none) →
        Gone { s with toShared := shared, calls := s.calls.set i call' } := by
      refine fun hnew => hi.congr rfl Iff.rfl fun other hother => ?_
      rcases List.mem_or_eq_of_mem_set hother with hother | rfl
      · exact hi.calls other hother
      · exact hnew
    cases h with
    | owned hstage hid hentry =>
      refine hset ⟨?_, fun _ h => nomatch h⟩
      rintro owner ⟨⟩
      obtain ⟨-, socket, hopen, -⟩ := howners.entries hentry
      exact hi.sockets hopen
    | lost hstage hnone =>
      refine hset ⟨fun _ h => (nomatch h), ?_⟩
      rintro owner ⟨⟩
      exact ⟨hi.owned call hmem _ hstage, (howners.known _).mpr hnone⟩
    | skipped hstage _ _ => exact hset (hi.calls call hmem)
    | skippedCall hstage => exact hset (hi.calls call hmem)
    | _ => exact hset ⟨fun _ h => (nomatch h), fun _ h => nomatch h⟩
  | _ => exact hi.congr rfl Iff.rfl hi.calls

theorem removeIfOwned_eq_self {allOffers : OfferId → Option (String × ConnectionId)}
    {removed : OfferId} {owner : ConnectionId}
    (h : ∀ entry, allOffers removed = some entry → entry.2 ≠ owner) :
    removeIfOwned allOffers removed owner = allOffers := by
  refine if_neg fun howned => ?_
  obtain ⟨entry, hentry, howner⟩ := (Option.any_eq_true ..).mp howned
  exact h entry hentry (of_decide_eq_true howner)

/-- A call that has found an owner to be gone removes nothing. -/
theorem Gone.cleanup (howners : Owners s) (hi : Gone s) {call : Call lib} (hcall : call ∈ s.calls)
    (hstage : call.stage = .lost connectionId) :
    (call.cleanup s.toShared connectionId).allOffers = s.allOffers := by
  unfold Call.cleanup
  split
  · refine removeIfOwned_eq_self fun entry hentry howner => ?_
    obtain ⟨-, socket, hopen, -⟩ := howners.entries hentry
    rw [howner] at hopen
    exact ne_none_of_eq_some hopen (hi.lost call hcall connectionId hstage).2
  · rfl

theorem owner_kept_by_step (howners : Owners s) (hgone : Gone s) {offerId : OfferId}
    {offer : String} (hown : s.allOffers offerId = some (offer, connectionId))
    (hkeeps : takesAway s offerId connectionId op = false) (h : s.Moves op s') :
    s'.allOffers offerId = some (offer, connectionId) := by
  cases h with
  | @served other _ _ h =>
    cases h with
    | subscribed hsocket =>
      unfold State.subscribe
      split
      · exact hown
      · dsimp only
        split
        · exact hown
        · exact hown
    | inserted hsocket =>
      simp only [takesAway, hsocket, decide_eq_false_iff_not] at hkeeps
      exact (Function.update_of_ne (Ne.symm hkeeps) _ _).trans hown
    | @removed text texts key removed hsocket hhash =>
      have hid : offerIdOf lib text = some removed := by
        rw [offerIdOf, hhash]
        rfl
      simp only [takesAway, hsocket, hid, Bool.and_eq_false_iff, decide_eq_false_iff_not] at hkeeps
      by_cases hsame : removed = offerId
      · subst hsame
        rcases hkeeps with hother | hother
        · refine (congrFun (removeIfOwned_eq_self fun entry hentry => ?_) removed).trans hown
          cases hown.symm.trans hentry
          exact Ne.symm hother
        · exact absurd rfl hother
      · show removeIfOwned s.allOffers removed other offerId = _
        unfold removeIfOwned
        split
        · rwa [Function.update_of_ne (Ne.symm hsame)]
        · exact hown
    | pruned hsocket =>
      simp only [takesAway, decide_eq_false_iff_not] at hkeeps
      exact Option.filter_eq_some_iff.mpr ⟨hown, decide_eq_true (Ne.symm hkeeps)⟩
    | _ => exact hown
  | called hcall h =>
    cases h with
    | cleaned hstage =>
      have hcleanup := hgone.cleanup howners (List.mem_of_getElem? hcall) hstage
      exact (congrFun hcleanup offerId).trans hown
    | _ => exact hown
  | _ => exact hown

/-- An owner keeps an offer, whatever requests and other connections do, until somebody subscribes
to an offer with the same hash, or the owner unsubscribes or goes away. -/
theorem owner_kept (hlaw : Lawful lib) {ops ops' : List (Op lib)} {offerId : OfferId}
    {offer : String} (h : runFrom step freshIds (.init lib) ops = some s)
    (hown : s.allOffers offerId = some (offer, connectionId))
    (h' : runFrom step (fun s op => freshIds s op && !takesAway s offerId connectionId op) s ops' =
      some s') :
    s'.allOffers offerId = some (offer, connectionId) := by
  have hinv := invariant_of_run hlaw (fun s => Owners s ∧ Gone s)
    (fun _ _ _ ⟨howners, hgone⟩ hfresh h => ⟨howners.step h, hgone.step howners hfresh h⟩)
    ⟨Owners.init, Gone.init⟩ h
  refine (invariant_of_run hlaw
    (fun s => (Owners s ∧ Gone s) ∧ s.allOffers offerId = some (offer, connectionId))
    (fun s op s' ⟨⟨howners, hgone⟩, hown⟩ hop h => ?_) ⟨hinv, hown⟩ h').2
  obtain ⟨hfresh, hkeeps⟩ := Bool.and_eq_true_iff.mp hop
  exact ⟨⟨howners.step h, hgone.step howners hfresh h⟩,
    owner_kept_by_step howners hgone hown (Bool.not_eq_true' _ ▸ hkeeps) h⟩

/-- Another connection cannot unsubscribe. -/
theorem owner_kept_example : ∃ s s' : State exampleLib,
    runFrom step freshIds (.init exampleLib) exampleSubscription = some s ∧
    runFrom step anyOp s [.connect 8, .unsubscribe 8 ["lno1"], .removeNext 8] = some s' ∧
    s'.allOffers 1 = some ("lno1", 7) := by
  obtain ⟨s, s', h, hown, h', hany⟩ : ∃ s s' : State exampleLib,
      runFrom step freshIds (.init exampleLib) exampleSubscription = some s ∧
      s.allOffers 1 = some ("lno1", 7) ∧
      runFrom step (fun s op => freshIds s op && !takesAway s 1 7 op) s
        [.connect 8, .unsubscribe 8 ["lno1"], .removeNext 8] = some s' ∧
      runFrom step anyOp s [.connect 8, .unsubscribe 8 ["lno1"], .removeNext 8] = some s' :=
    ⟨_, _, rfl, rfl, rfl, rfl⟩
  exact ⟨s, s', h, hany, owner_kept lawful_exampleLib h hown h'⟩

end

end Boltz.Offers
