import Boltz.Service.MusigSessions
import Mathlib.Data.List.Nodup
import Mathlib.Data.List.Perm.Subperm

/-!
# Every nonce signs at most once

The session of a claim has not signed, unless the call that signed with it waits for its broadcast:
it then removes the claim with its session. When the broadcast fails, the claim keeps a session that
has signed, and the next signature of the client is answered with the same nonce.
-/

namespace Boltz.MusigSessions

open Async

/-! ## Sessions

A session belongs to an object, or is kept for a rescue. -/

structure Sessions where
  objects : Nat → Option Nat
  nextObject : Nat
  nextNonce : Nat
  rescues : List Nat
  signed : List Nat

namespace Sessions

def Unsigned (m : Sessions) (object : Nat) : Prop :=
  ∀ nonce, m.objects object = some nonce → nonce ∉ m.signed

structure Valid (m : Sessions) : Prop where
  nodup : m.signed.Nodup
  signed_lt : ∀ nonce ∈ m.signed, nonce < m.nextNonce
  session_lt : ∀ object nonce, m.objects object = some nonce →
    nonce < m.nextNonce ∧ object < m.nextObject
  session_inj : ∀ object object' nonce, m.objects object = some nonce →
    m.objects object' = some nonce → object = object'
  rescues_nodup : m.rescues.Nodup
  rescue : ∀ nonce ∈ m.rescues,
    nonce < m.nextNonce ∧ nonce ∉ m.signed ∧ ∀ object, m.objects object ≠ some nonce

def create (m : Sessions) : Sessions := { m with nextObject := m.nextObject + 1 }

def generate (m : Sessions) (object : Nat) : Sessions :=
  { m with
    objects := fun o => if o = object then some m.nextNonce else m.objects o
    nextNonce := m.nextNonce + 1 }

def sign (m : Sessions) (nonce : Nat) : Sessions := { m with signed := nonce :: m.signed }

def keep (m : Sessions) (rescues : List Nat) : Sessions := { m with rescues := rescues }

/-- A new nonce, which no object and no rescue has. -/
def issue (m : Sessions) : Sessions := { m with nextNonce := m.nextNonce + 1 }

variable {m : Sessions} {object nonce : Nat}

theorem Valid.create (h : m.Valid) : m.create.Valid :=
  ⟨h.nodup, h.signed_lt, fun o n ho => ⟨(h.session_lt o n ho).1, Nat.lt_succ_of_lt
    (h.session_lt o n ho).2⟩, h.session_inj, h.rescues_nodup, h.rescue⟩

theorem Valid.unsigned_nextObject (h : m.Valid) : m.Unsigned m.nextObject := by
  intro nonce hnonce
  exact absurd (h.session_lt _ _ hnonce).2 (Nat.lt_irrefl _)

theorem Valid.issue (h : m.Valid) : m.issue.Valid where
  nodup := h.nodup
  signed_lt nonce hnonce := Nat.lt_succ_of_lt (h.signed_lt nonce hnonce)
  session_lt o n ho := ⟨Nat.lt_succ_of_lt (h.session_lt o n ho).1, (h.session_lt o n ho).2⟩
  session_inj := h.session_inj
  rescues_nodup := h.rescues_nodup
  rescue nonce hnonce := by
    obtain ⟨hlt, hrest⟩ := h.rescue nonce hnonce
    exact ⟨Nat.lt_succ_of_lt hlt, hrest⟩

theorem Valid.generate (h : m.Valid) (hobject : object < m.nextObject) :
    (m.generate object).Valid := by
  have hold : ∀ o n, (m.generate object).objects o = some n →
      (o = object ∧ n = m.nextNonce) ∨ (o ≠ object ∧ m.objects o = some n) := by
    intro o n ho
    simp only [Sessions.generate] at ho
    split at ho
    · exact .inl ⟨‹_›, (Option.some.inj ho).symm⟩
    · exact .inr ⟨‹_›, ho⟩
  refine ⟨h.nodup, fun n hn => Nat.lt_succ_of_lt (h.signed_lt n hn), fun o n ho => ?_,
    fun o o' n ho ho' => ?_, h.rescues_nodup, fun n hn => ?_⟩
  · rcases hold o n ho with ⟨rfl, rfl⟩ | ⟨-, ho⟩
    · exact ⟨Nat.lt_succ_self _, hobject⟩
    · exact ⟨Nat.lt_succ_of_lt (h.session_lt o n ho).1, (h.session_lt o n ho).2⟩
  · rcases hold o n ho with ⟨hobj, hn⟩ | ⟨-, hsession⟩ <;>
      rcases hold o' n ho' with ⟨hobj', hn'⟩ | ⟨-, hsession'⟩
    · exact hobj.trans hobj'.symm
    · exact absurd (hn ▸ (h.session_lt _ _ hsession').1) (Nat.lt_irrefl _)
    · exact absurd (hn' ▸ (h.session_lt _ _ hsession).1) (Nat.lt_irrefl _)
    · exact h.session_inj o o' n hsession hsession'
  · obtain ⟨hlt, hunsigned, hfree⟩ := h.rescue n hn
    refine ⟨Nat.lt_succ_of_lt hlt, hunsigned, fun o ho => ?_⟩
    rcases hold o n ho with ⟨rfl, rfl⟩ | ⟨-, ho⟩
    · exact absurd hlt (Nat.lt_irrefl _)
    · exact hfree o ho

/-- A new session has not signed, and the other sessions are the same. -/
theorem Valid.unsigned_generate (h : m.Valid) {o : Nat} (hunsigned : m.Unsigned o) :
    (m.generate object).Unsigned o := by
  intro nonce hnonce hsigned
  simp only [Sessions.generate] at hnonce hsigned
  split at hnonce
  · obtain rfl := Option.some.inj hnonce
    exact absurd (h.signed_lt _ hsigned) (Nat.lt_irrefl _)
  · exact hunsigned nonce hnonce hsigned

/-- An unused nonce that no rescue has may sign. -/
theorem Valid.sign (h : m.Valid) (hlt : nonce < m.nextNonce) (hunsigned : nonce ∉ m.signed)
    (hrescues : nonce ∉ m.rescues) : (m.sign nonce).Valid := by
  refine ⟨List.nodup_cons.mpr ⟨hunsigned, h.nodup⟩, fun n hn => ?_, h.session_lt, h.session_inj,
    h.rescues_nodup, fun n hn => ?_⟩
  · rcases List.mem_cons.mp hn with rfl | hn
    · exact hlt
    · exact h.signed_lt n hn
  · obtain ⟨hn_lt, hn_unsigned, hfree⟩ := h.rescue n hn
    refine ⟨hn_lt, fun hsigned => ?_, hfree⟩
    rcases List.mem_cons.mp hsigned with rfl | hsigned
    · exact hrescues hn
    · exact hn_unsigned hsigned

theorem Valid.sign_session (h : m.Valid) (hsession : m.objects object = some nonce)
    (hunsigned : m.Unsigned object) : (m.sign nonce).Valid :=
  h.sign (h.session_lt _ _ hsession).1 (hunsigned nonce hsession)
    fun hrescue => (h.rescue nonce hrescue).2.2 object hsession

/-- Only the session of the object that signs is used up. -/
theorem Valid.unsigned_sign_session (h : m.Valid) (hsession : m.objects object = some nonce)
    {o : Nat} (hne : o ≠ object) (hunsigned : m.Unsigned o) : (m.sign nonce).Unsigned o := by
  intro n hn hsigned
  rcases List.mem_cons.mp hsigned with rfl | hsigned
  · exact hne (h.session_inj _ _ _ hn hsession)
  · exact hunsigned n hn hsigned

theorem unsigned_sign_other (hfree : ∀ o, m.objects o ≠ some nonce) {o : Nat}
    (hunsigned : m.Unsigned o) : (m.sign nonce).Unsigned o := by
  intro n hn hsigned
  rcases List.mem_cons.mp hsigned with rfl | hsigned
  · exact hfree o hn
  · exact hunsigned n hn hsigned

theorem Valid.keep (h : m.Valid) {rescues : List Nat} (hsub : rescues.Subperm m.rescues) :
    (m.keep rescues).Valid := by
  have hsubset := hsub.subset
  obtain ⟨kept, hperm, hsublist⟩ := hsub
  exact ⟨h.nodup, h.signed_lt, h.session_lt, h.session_inj,
    hperm.nodup_iff.mp (h.rescues_nodup.sublist hsublist),
    fun nonce hnonce => h.rescue nonce (hsubset hnonce)⟩

/-- The next nonce is kept for a rescue. -/
theorem Valid.keep_nextNonce (h : m.Valid) : (m.issue.keep (m.rescues ++ [m.nextNonce])).Valid := by
  have hnew : m.nextNonce ∉ m.rescues := by
    intro hmem
    exact absurd (h.rescue _ hmem).1 (Nat.lt_irrefl _)
  refine ⟨h.nodup, h.issue.signed_lt, h.issue.session_lt, h.session_inj, ?_, fun n hn => ?_⟩
  · exact List.nodup_append.mpr ⟨h.rescues_nodup, List.nodup_singleton _, fun n hn n' hn' heq =>
      hnew (List.mem_singleton.mp hn' ▸ heq ▸ hn)⟩
  · rcases List.mem_append.mp hn with hn | hn
    · exact h.issue.rescue n hn
    · obtain rfl := List.mem_singleton.mp hn
      exact ⟨Nat.lt_succ_self _, fun hsigned => absurd (h.signed_lt _ hsigned) (Nat.lt_irrefl _),
        fun o ho => absurd (h.session_lt o _ ho).1 (Nat.lt_irrefl _)⟩

end Sessions

/-! ## Claims with sessions -/

/-- The claims of a signer, in its map and held by a call. The call `signing` has signed with the
session of its claim. -/
structure Book {Key : Type} (m : Sessions) (claims : List (Entry Key))
    (signing : Option (Entry Key)) : Prop where
  keyed : ∀ claim ∈ claims, ∀ claim' ∈ claims, claim.object = claim'.object →
    claim.key = claim'.key
  lt : ∀ claim ∈ claims, claim.object < m.nextObject
  unsigned : ∀ claim ∈ claims, (∀ signs, signing = some signs → signs.object ≠ claim.object) →
    m.Unsigned claim.object

namespace Book

variable {Key : Type} {m m' : Sessions} {claims claims' : List (Entry Key)}
  {signing : Option (Entry Key)} {claim : Entry Key}

theorem nil : Book m [] signing :=
  ⟨fun _ h => absurd h List.not_mem_nil, fun _ h => absurd h List.not_mem_nil,
    fun _ h => absurd h List.not_mem_nil⟩

theorem moved (h : Book m claims signing) (hsub : claims' ⊆ claims) : Book m claims' signing :=
  ⟨fun c hc c' hc' => h.keyed c (hsub hc) c' (hsub hc'), fun c hc => h.lt c (hsub hc),
    fun c hc => h.unsigned c (hsub hc)⟩

theorem frame (h : Book m claims signing) (hnext : m.nextObject ≤ m'.nextObject)
    (hunsigned : ∀ claim ∈ claims, m.Unsigned claim.object → m'.Unsigned claim.object) :
    Book m' claims signing :=
  ⟨h.keyed, fun c hc => Nat.lt_of_lt_of_le (h.lt c hc) hnext,
    fun c hc hother => hunsigned c hc (h.unsigned c hc hother)⟩

/-- A claim with a new object, which has no session. -/
theorem added (h : Book m claims signing) (hvalid : m.Valid) (hobject : claim.object = m.nextObject)
    (hsub : claims' ⊆ claims ++ [claim]) : Book m.create claims' signing := by
  have hlt : ∀ c ∈ claims, c.object ≠ claim.object := by
    intro c hc heq
    have := h.lt c hc
    omega
  have hcases : ∀ c ∈ claims', c ∈ claims ∨ c = claim := by
    intro c hc
    exact (List.mem_append.mp (hsub hc)).imp_right List.mem_singleton.mp
  refine ⟨fun c hc c' hc' heq => ?_, fun c hc => ?_, fun c hc hother => ?_⟩
  · rcases hcases c hc with hc | rfl <;> rcases hcases c' hc' with hc' | rfl
    · exact h.keyed c hc c' hc' heq
    · exact absurd heq (hlt c hc)
    · exact absurd heq.symm (hlt c' hc')
    · rfl
  · rcases hcases c hc with hc | rfl
    · exact Nat.lt_succ_of_lt (h.lt c hc)
    · exact hobject ▸ Nat.lt_succ_self _
  · rcases hcases c hc with hc | rfl
    · exact h.unsigned c hc hother
    · rw [hobject]
      exact hvalid.unsigned_nextObject

theorem unsigned_of_idle (h : Book m claims none) (hclaim : claim ∈ claims) :
    m.Unsigned claim.object :=
  h.unsigned claim hclaim fun _ hnone => nomatch hnone

theorem sign (h : Book m claims none) (hvalid : m.Valid) {nonce : Nat}
    (hsession : m.objects claim.object = some nonce) : Book (m.sign nonce) claims (some claim) :=
  ⟨h.keyed, h.lt, fun _ hc hother => hvalid.unsigned_sign_session hsession
    (fun heq => hother claim rfl heq.symm) (h.unsigned_of_idle hc)⟩

/-- The claim that has signed is removed with its session. -/
theorem claimed (h : Book m claims (some claim)) (hclaim : claim ∈ claims)
    (hsub : claims' ⊆ claims) (hremoved : ∀ c ∈ claims', c.key ≠ claim.key) :
    Book m claims' none := by
  have hmoved := h.moved hsub
  refine ⟨hmoved.keyed, hmoved.lt, fun c hc _ => ?_⟩
  refine h.unsigned c (hsub hc) fun _ hsigns heq => ?_
  obtain rfl := Option.some.inj hsigns
  exact hremoved c hc (h.keyed _ (hsub hc) _ hclaim heq.symm)

end Book

namespace State

/-! ## The sessions and claims of a state -/

def sessions (s : State) : Sessions :=
  ⟨s.objects, s.nextObject, s.nextNonce, s.rescues.map (·.2) ++ s.taken, s.signed⟩

def BatchCall.held : BatchCall → List (Entry DeferredKey)
  | .selected claim | .broadcasting claim => [claim]
  | .batch claims => claims

def ClaimCall.held : ClaimCall → List (Entry Nat)
  | .started _ => []
  | .selected claim | .broadcasting claim | .sent claim => [claim]

def deferredClaims (s : State) : List (Entry DeferredKey) :=
  s.swapsToClaim ++ (s.batchClaim.map BatchCall.held).getD []

def claimables (s : State) : List (Entry Nat) :=
  s.claimable ++ (s.cooperativeBroadcast.map ClaimCall.held).getD []

def signingDeferred (s : State) : Option (Entry DeferredKey) :=
  match s.batchClaim with
  | some (.broadcasting claim) => some claim
  | _ => none

def signingClaim (s : State) : Option (Entry Nat) :=
  match s.cooperativeBroadcast with
  | some (.broadcasting claim) | some (.sent claim) => some claim
  | _ => none

structure Inv (s : State) : Prop where
  valid : s.sessions.Valid
  details : ∀ object ∈ s.details, object < s.nextObject
  deferred : Book s.sessions s.deferredClaims s.signingDeferred
  claimable : Book s.sessions s.claimables s.signingClaim
  /-- The signers do not share objects. -/
  apart : ∀ claim ∈ s.deferredClaims, ∀ claim' ∈ s.claimables, claim.object ≠ claim'.object

variable {Key : Type} [DecidableEq Key] {s s' : State}

theorem mem_of_get {map : List (Entry Key)} {key : Key} {claim : Entry Key}
    (h : get map key = some claim) : claim ∈ map :=
  List.mem_of_find?_eq_some h

theorem mem_of_set {map : List (Entry Key)} {entry claim : Entry Key}
    (h : claim ∈ set map entry) : claim ∈ map ∨ claim = entry := by
  rcases List.mem_append.mp h with h | h
  · exact .inl (List.mem_filter.mp h).1
  · exact .inr (List.mem_singleton.mp h)

theorem delete_subset (map : List (Entry Key)) (key : Key) : delete map key ⊆ map :=
  List.filter_sublist.subset

theorem mem_of_restored {claims : List (Entry Key)} :
    ∀ {map : List (Entry Key)} {claim : Entry Key}, claim ∈ claims.foldl set map →
      claim ∈ map ∨ claim ∈ claims := by
  induction claims with
  | nil => exact fun h => .inl h
  | cons first rest ih =>
    intro map claim h
    rcases ih h with h | h
    · rcases mem_of_set h with h | rfl
      · exact .inl h
      · exact .inr List.mem_cons_self
    · exact .inr (List.mem_cons_of_mem _ h)

theorem inv_init : Inv {} where
  valid :=
    { nodup := List.nodup_nil
      signed_lt := fun _ h => nomatch h
      session_lt := fun _ _ h => nomatch h
      session_inj := fun _ _ _ h => nomatch h
      rescues_nodup := List.nodup_nil
      rescue := fun _ h => nomatch h }
  details _ h := nomatch h
  deferred := Book.nil
  claimable := Book.nil
  apart _ h := nomatch h

/-- A step that moves claims between maps and calls, or drops them. -/
theorem Inv.moved (h : Inv s) (hsessions : s'.sessions = s.sessions)
    (hdetails : ∀ object ∈ s'.details, object < s.nextObject)
    (hdeferred : s'.deferredClaims ⊆ s.deferredClaims)
    (hsigningDeferred : s'.signingDeferred = s.signingDeferred)
    (hclaimable : s'.claimables ⊆ s.claimables)
    (hsigningClaim : s'.signingClaim = s.signingClaim) : Inv s' where
  valid := hsessions ▸ h.valid
  details := by
    have hnext : s'.nextObject = s.nextObject := congrArg Sessions.nextObject hsessions
    rw [hnext]
    exact hdetails
  deferred := by
    rw [hsessions, hsigningDeferred]
    exact h.deferred.moved hdeferred
  claimable := by
    rw [hsessions, hsigningClaim]
    exact h.claimable.moved hclaimable
  apart claim hclaim claim' hclaim' := h.apart claim (hdeferred hclaim) claim' (hclaimable hclaim')

/-- A step that keeps the claims where they are, and uses up no session of a claim. -/
theorem Inv.frame (h : Inv s) (hvalid : s'.sessions.Valid)
    (hnext : s'.nextObject = s.nextObject)
    (hunsigned : ∀ object, s.sessions.Unsigned object → s'.sessions.Unsigned object)
    (hdetails : s'.details ⊆ s.details)
    (hdeferred : s'.deferredClaims = s.deferredClaims)
    (hsigningDeferred : s'.signingDeferred = s.signingDeferred)
    (hclaimable : s'.claimables = s.claimables)
    (hsigningClaim : s'.signingClaim = s.signingClaim) : Inv s' where
  valid := hvalid
  details object hobject := hnext ▸ h.details object (hdetails hobject)
  deferred := by
    rw [hdeferred, hsigningDeferred]
    exact h.deferred.frame (Nat.le_of_eq hnext.symm) fun claim _ => hunsigned claim.object
  claimable := by
    rw [hclaimable, hsigningClaim]
    exact h.claimable.frame (Nat.le_of_eq hnext.symm) fun claim _ => hunsigned claim.object
  apart := by
    rw [hdeferred, hclaimable]
    exact h.apart

theorem Inv.lt_of_deferred (h : Inv s) {claim : Entry DeferredKey}
    (hclaim : claim ∈ s.swapsToClaim) : claim.object < s.nextObject :=
  h.deferred.lt claim (List.mem_append_left _ hclaim)

theorem Inv.lt_of_claimable (h : Inv s) {claim : Entry Nat} (hclaim : claim ∈ s.claimable) :
    claim.object < s.nextObject :=
  h.claimable.lt claim (List.mem_append_left _ hclaim)

/-! ## Claims that are added -/

theorem set_append_subset {map held : List (Entry Key)} {entry : Entry Key} :
    set map entry ++ held ⊆ (map ++ held) ++ [entry] := by
  intro claim hclaim
  rcases List.mem_append.mp hclaim with hclaim | hclaim
  · rcases mem_of_set hclaim with hclaim | rfl
    · exact List.mem_append_left _ (List.mem_append_left _ hclaim)
    · exact List.mem_append_right _ List.mem_cons_self
  · exact List.mem_append_left _ (List.mem_append_right _ hclaim)

theorem Inv.deferClaim (h : Inv s) (key : DeferredKey) : Inv (s.deferClaim key) where
  valid := h.valid.create
  details object hobject := Nat.lt_succ_of_lt (h.details object hobject)
  deferred := h.deferred.added h.valid rfl set_append_subset
  claimable := h.claimable.frame (Nat.le_succ _) fun _ _ hunsigned => hunsigned
  apart claim hclaim claim' hclaim' := by
    rcases List.mem_append.mp (set_append_subset hclaim) with hclaim | hclaim
    · exact h.apart claim hclaim claim' hclaim'
    · obtain rfl := List.mem_singleton.mp hclaim
      exact (Nat.ne_of_lt (h.claimable.lt claim' hclaim')).symm

theorem Inv.registerForClaim (h : Inv s) (id : Nat) : Inv (s.registerForClaim id) := by
  unfold State.registerForClaim
  cases get s.claimable id with
  | some _ => exact h
  | none =>
    refine ⟨h.valid.create, fun object hobject => Nat.lt_succ_of_lt (h.details object hobject),
      h.deferred.frame (Nat.le_succ _) fun _ _ hunsigned => hunsigned,
      h.claimable.added h.valid rfl set_append_subset, fun claim hclaim claim' hclaim' => ?_⟩
    rcases List.mem_append.mp (set_append_subset hclaim') with hclaim' | hclaim'
    · exact h.apart claim hclaim claim' hclaim'
    · obtain rfl := List.mem_singleton.mp hclaim'
      exact Nat.ne_of_lt (h.deferred.lt claim hclaim)

/-! ## Claims that are signed -/

theorem deferredClaims_eq {call : BatchCall} (h : s.batchClaim = some call) :
    s.deferredClaims = s.swapsToClaim ++ BatchCall.held call := by
  rw [deferredClaims, h]
  rfl

theorem claimables_eq {call : ClaimCall} (h : s.cooperativeBroadcast = some call) :
    s.claimables = s.claimable ++ ClaimCall.held call := by
  rw [claimables, h]
  rfl

theorem signSession_eq_some {object : Nat} {valid : Bool}
    (h : s.signSession object valid = some s') :
    ∃ nonce, s.objects object = some nonce ∧ s' = s.sign nonce := by
  cases valid with
  | false => cases h
  | true =>
    obtain ⟨nonce, hnonce, rfl⟩ := Option.map_eq_some_iff.mp h
    exact ⟨nonce, hnonce, rfl⟩

theorem Inv.signDeferred (h : Inv s) {claim : Entry DeferredKey} {nonce : Nat}
    (hbatch : s.batchClaim = some (.selected claim))
    (hsession : s.objects claim.object = some nonce) :
    Inv { s.sign nonce with batchClaim := some (.broadcasting claim) } := by
  have hclaims := deferredClaims_eq hbatch
  have hclaim : claim ∈ s.deferredClaims := by
    rw [hclaims]
    exact List.mem_append_right _ List.mem_cons_self
  have hbook : Book s.sessions s.deferredClaims none := by
    have hbook := h.deferred
    rwa [signingDeferred, hbatch] at hbook
  have hsigned := hbook.sign h.valid hsession
  have hapart := h.apart
  rw [hclaims] at hsigned hapart
  exact ⟨h.valid.sign_session hsession (hbook.unsigned_of_idle hclaim), h.details, hsigned,
    h.claimable.frame (Nat.le_refl _) fun claim' hclaim' hunsigned =>
      h.valid.unsigned_sign_session hsession (h.apart claim hclaim claim' hclaim').symm hunsigned,
    hapart⟩

theorem Inv.signCooperatively (h : Inv s) {claim : Entry Nat} {nonce : Nat}
    (hcall : s.cooperativeBroadcast = some (.selected claim))
    (hsession : s.objects claim.object = some nonce) :
    Inv { s.sign nonce with cooperativeBroadcast := some (.broadcasting claim) } := by
  have hclaims := claimables_eq hcall
  have hclaim : claim ∈ s.claimables := by
    rw [hclaims]
    exact List.mem_append_right _ List.mem_cons_self
  have hbook : Book s.sessions s.claimables none := by
    have hbook := h.claimable
    rwa [signingClaim, hcall] at hbook
  have hsigned := hbook.sign h.valid hsession
  have hapart := h.apart
  rw [hclaims] at hsigned hapart
  exact ⟨h.valid.sign_session hsession (hbook.unsigned_of_idle hclaim), h.details,
    h.deferred.frame (Nat.le_refl _) fun claim' hclaim' hunsigned =>
      h.valid.unsigned_sign_session hsession (h.apart claim' hclaim' claim hclaim) hunsigned,
    hsigned, hapart⟩

theorem key_ne_of_deleted {map : List (Entry Key)} {key : Key} {claim : Entry Key}
    (h : claim ∈ delete map key ++ []) : claim.key ≠ key := by
  rw [List.append_nil] at h
  simpa using (List.mem_filter.mp h).2

/-- After its broadcast the claim is removed, with the session that has signed. -/
theorem Inv.deferredBroadcast (h : Inv s) {claim : Entry DeferredKey}
    (hbatch : s.batchClaim = some (.broadcasting claim)) :
    Inv { s with batchClaim := none, swapsToClaim := delete s.swapsToClaim claim.key } := by
  have hclaims := deferredClaims_eq hbatch
  have hclaim : claim ∈ s.deferredClaims := by
    rw [hclaims]
    exact List.mem_append_right _ List.mem_cons_self
  have hbook : Book s.sessions s.deferredClaims (some claim) := by
    have hbook := h.deferred
    rwa [signingDeferred, hbatch] at hbook
  have hsub : delete s.swapsToClaim claim.key ++ [] ⊆ s.deferredClaims := by
    rw [List.append_nil, hclaims]
    exact fun c hc => List.mem_append_left _ (delete_subset _ _ hc)
  refine ⟨h.valid, h.details, hbook.claimed hclaim hsub fun c hc => ?_, h.claimable,
    fun c hc => h.apart c (hsub hc)⟩
  exact key_ne_of_deleted hc

theorem Inv.claimRemoved (h : Inv s) {claim : Entry Nat}
    (hcall : s.cooperativeBroadcast = some (.sent claim)) :
    Inv { s with cooperativeBroadcast := none, claimable := delete s.claimable claim.key } := by
  have hclaims := claimables_eq hcall
  have hclaim : claim ∈ s.claimables := by
    rw [hclaims]
    exact List.mem_append_right _ List.mem_cons_self
  have hbook : Book s.sessions s.claimables (some claim) := by
    have hbook := h.claimable
    rwa [signingClaim, hcall] at hbook
  have hsub : delete s.claimable claim.key ++ [] ⊆ s.claimables := by
    rw [List.append_nil, hclaims]
    exact fun c hc => List.mem_append_left _ (delete_subset _ _ hc)
  refine ⟨h.valid, h.details, h.deferred, hbook.claimed hclaim hsub fun c hc => ?_,
    fun c hc c' hc' => h.apart c hc c' (hsub hc')⟩
  exact key_ne_of_deleted hc

/-! ## Other nonces -/

theorem Inv.detailsCreated (h : Inv s) {i object : Nat} (hcall : s.details[i]? = some object) :
    Inv { s.generateNonce object with details := s.details.eraseIdx i } :=
  h.frame (h.valid.generate (h.details object (List.mem_of_getElem? hcall))) rfl
    (fun _ hunsigned => h.valid.unsigned_generate hunsigned) List.eraseIdx_subset rfl rfl rfl rfl

/-- A nonce of a refund or of a claim of the client signs at once. -/
theorem Inv.createPartialSignature (h : Inv s) :
    Inv { s.sign s.nextNonce with nextNonce := s.nextNonce + 1 } := by
  have hfree : ∀ object, s.objects object ≠ some s.nextNonce := by
    intro object hobject
    exact absurd (h.valid.session_lt object _ hobject).1 (Nat.lt_irrefl _)
  refine h.frame (h.valid.issue.sign (Nat.lt_succ_self _) ?_ ?_) rfl
    (fun object hunsigned => Sessions.unsigned_sign_other (m := s.sessions.issue) hfree hunsigned)
    (fun _ hobject => hobject) rfl rfl rfl rfl
  · exact fun hsigned => absurd (h.valid.signed_lt _ hsigned) (Nat.lt_irrefl _)
  · exact fun hrescue => absurd (h.valid.rescue _ hrescue).1 (Nat.lt_irrefl _)

/-- Rescues that are dropped, or whose nonce is taken from the cache. -/
theorem Inv.keep (h : Inv s) {rescues : List (Nat × Nat)} {creating taken : List Nat}
    (hsub : (rescues.map (·.2) ++ taken).Subperm (s.rescues.map (·.2) ++ s.taken)) :
    Inv { s with rescues := rescues, creating := creating, taken := taken } :=
  h.frame (h.valid.keep hsub) rfl (fun _ hunsigned => hunsigned) (fun _ hobject => hobject)
    rfl rfl rfl rfl

theorem Inv.rescueCreated (h : Inv s) (id : Nat) (creating : List Nat) :
    Inv { s with
      creating := creating
      rescues := s.rescues.filter (·.1 ≠ id) ++ [(id, s.nextNonce)]
      nextNonce := s.nextNonce + 1 } := by
  have hfilter : (s.rescues.filter (·.1 ≠ id)).map (·.2) |>.Sublist (s.rescues.map (·.2)) :=
    List.filter_sublist.map _
  have hsub : ((s.rescues.filter (·.1 ≠ id) ++ [(id, s.nextNonce)]).map (·.2) ++ s.taken).Subperm
      ((s.rescues.map (·.2) ++ s.taken) ++ [s.nextNonce]) := by
    rw [List.map_append, List.append_assoc, List.append_assoc]
    exact hfilter.subperm.append List.perm_append_comm.subperm
  exact h.frame (h.valid.keep_nextNonce.keep hsub) rfl (fun _ hunsigned => hunsigned)
    (fun _ hobject => hobject) rfl rfl rfl rfl

theorem Inv.broadcastRescue (h : Inv s) {id : Nat} {rescue : Nat × Nat}
    (hrescue : s.rescues.find? (·.1 = id) = some rescue) :
    Inv { s with rescues := s.rescues.filter (·.1 ≠ id), taken := s.taken ++ [rescue.2] } := by
  have hmem := List.mem_of_find?_eq_some hrescue
  have hid : rescue.1 = id := by simpa using List.find?_some hrescue
  have hnot : rescue ∉ s.rescues.filter (·.1 ≠ id) := by
    intro hin
    simpa [hid] using (List.mem_filter.mp hin).2
  obtain ⟨kept, hperm, hsublist⟩ := List.cons_subperm_of_not_mem_of_mem hnot hmem
    List.filter_sublist.subperm
  have hmap : (rescue.2 :: (s.rescues.filter (·.1 ≠ id)).map (·.2)).Subperm
      (s.rescues.map (·.2)) := ⟨kept.map (·.2), hperm.map (·.2), hsublist.map (·.2)⟩
  refine h.keep ?_
  rw [← List.append_assoc]
  exact List.perm_append_comm.subperm.trans (hmap.append (List.Subperm.refl s.taken))

theorem Inv.signRescue (h : Inv s) {i nonce : Nat} (htaken : s.taken[i]? = some nonce)
    (valid : Bool) :
    Inv (if valid then { s with taken := s.taken.eraseIdx i }.sign nonce
      else { s with taken := s.taken.eraseIdx i }) := by
  have hperm : (s.rescues.map (·.2) ++ s.taken).Perm
      (nonce :: (s.rescues.map (·.2) ++ s.taken.eraseIdx i)) := by
    obtain ⟨hi, rfl⟩ := List.getElem?_eq_some_iff.mp htaken
    exact ((List.getElem_cons_eraseIdx_perm hi).symm.append_left _).trans List.perm_middle
  have hkept : Inv { s with taken := s.taken.eraseIdx i } :=
    h.keep ((List.sublist_cons_self _ _).subperm.trans hperm.symm.subperm)
  obtain ⟨hlt, hunsigned, hfree⟩ := h.valid.rescue nonce (hperm.symm.subset List.mem_cons_self)
  have hnot := (List.nodup_cons.mp (hperm.nodup_iff.mp h.valid.rescues_nodup)).1
  cases valid with
  | false => exact hkept
  | true =>
    exact hkept.frame (hkept.valid.sign hlt hunsigned hnot) rfl
      (fun _ hobject => Sessions.unsigned_sign_other hfree hobject) (fun _ hobject => hobject)
      rfl rfl rfl rfl

/-! ## Runs -/

theorem Inv.movedDeferred (h : Inv s) {map : List (Entry DeferredKey)} {call : Option BatchCall}
    (hclaims : map ++ (call.map BatchCall.held).getD [] ⊆ s.deferredClaims)
    (hidle : s.signingDeferred = none) (hcall : ∀ claim, call ≠ some (.broadcasting claim)) :
    Inv { s with swapsToClaim := map, batchClaim := call } := by
  refine h.moved rfl h.details hclaims (Eq.trans ?_ hidle.symm) (List.Subset.refl _) rfl
  rcases call with _ | (_ | claim | _)
  · rfl
  · rfl
  · exact absurd rfl (hcall claim)
  · rfl

theorem Inv.afterChunk (h : Inv s) {map rest : List (Entry DeferredKey)}
    (hclaims : map ++ rest ⊆ s.deferredClaims) (hidle : s.signingDeferred = none) :
    Inv (({ s with swapsToClaim := map } : State).afterChunk rest) := by
  refine h.movedDeferred ?_ hidle fun claim => ?_
  · cases rest with
    | nil => exact hclaims
    | cons => exact hclaims
  · cases rest with
    | nil => exact fun hcall => nomatch hcall
    | cons => exact fun hcall => nomatch hcall

theorem inv_step (s : State) (op : Op) (s' : State) (h : Inv s)
    (hadmits : s.broadcastSucceeds op = true) (hstep : s.step op = some s') : Inv s' := by
  cases op with
  | deferClaim key =>
    simp only [State.step] at hstep
    split at hstep
    · cases hstep
    · obtain rfl := Option.some.inj hstep
      exact h.deferClaim key
  | registerForClaim id =>
    obtain rfl := Option.some.inj hstep
    exact h.registerForClaim id
  | removeFromClaimable id =>
    obtain rfl := Option.some.inj hstep
    refine h.moved rfl h.details (List.Subset.refl _) rfl ?_ rfl
    exact List.append_subset.mpr ⟨fun _ hc => List.mem_append_left _ (delete_subset _ _ hc),
      fun _ hc => List.mem_append_right _ hc⟩
  | getCooperativeDetails key =>
    simp only [State.step] at hstep
    split at hstep
    · cases hstep
    · obtain ⟨claim, hget, rfl⟩ := Option.map_eq_some_iff.mp hstep
      refine h.moved rfl ?_ (List.Subset.refl _) rfl (List.Subset.refl _) rfl
      intro object hobject
      rcases List.mem_append.mp hobject with hobject | hobject
      · exact h.details object hobject
      · exact List.mem_singleton.mp hobject ▸ h.lt_of_deferred (mem_of_get hget)
  | getChainSwapDetails id =>
    obtain ⟨claim, hget, rfl⟩ := Option.map_eq_some_iff.mp hstep
    refine h.moved rfl ?_ (List.Subset.refl _) rfl (List.Subset.refl _) rfl
    intro object hobject
    rcases List.mem_append.mp hobject with hobject | hobject
    · exact h.details object hobject
    · exact List.mem_singleton.mp hobject ▸ h.lt_of_claimable (mem_of_get hget)
  | detailsCreated i =>
    obtain ⟨object, hcall, rfl⟩ := Option.map_eq_some_iff.mp hstep
    exact h.detailsCreated hcall
  | detailsFailed i =>
    obtain ⟨object, -, rfl⟩ := Option.map_eq_some_iff.mp hstep
    exact h.moved rfl (fun o ho => h.details o (List.eraseIdx_subset ho)) (List.Subset.refl _) rfl
      (List.Subset.refl _) rfl
  | broadcastCooperative key =>
    simp only [State.step] at hstep
    split at hstep
    · rename_i claim hbatch hget
      split at hstep
      · obtain rfl := Option.some.inj hstep
        have hidle : s.signingDeferred = none := by rw [signingDeferred, hbatch]
        refine h.movedDeferred ?_ hidle fun _ hcall => nomatch hcall
        rw [deferredClaims, hbatch]
        refine List.append_subset.mpr ⟨List.subset_append_left _ _, fun c hc => ?_⟩
        exact List.mem_append_left _ (List.mem_singleton.mp hc ▸ mem_of_get hget)
      · cases hstep
    · cases hstep
  | signDeferred valid =>
    simp only [State.step] at hstep
    split at hstep
    · rename_i claim hbatch
      split at hstep
      · rename_i signed hsign
        obtain rfl := Option.some.inj hstep
        obtain ⟨nonce, hsession, rfl⟩ := signSession_eq_some hsign
        exact h.signDeferred hbatch hsession
      · obtain rfl := Option.some.inj hstep
        have hidle : s.signingDeferred = none := by rw [signingDeferred, hbatch]
        refine h.movedDeferred ?_ hidle fun _ hcall => nomatch hcall
        rw [deferredClaims_eq hbatch]
        exact List.append_subset.mpr ⟨List.subset_append_left _ _, List.nil_subset _⟩
    · cases hstep
  | deferredBroadcast ok =>
    obtain rfl : ok = true := hadmits
    simp only [State.step] at hstep
    split at hstep
    · rename_i claim hbatch
      obtain rfl := Option.some.inj hstep
      exact h.deferredBroadcast hbatch
    · cases hstep
  | sweepSymbol symbol =>
    simp only [State.step] at hstep
    split at hstep
    · rename_i hbatch
      obtain rfl := Option.some.inj hstep
      refine h.afterChunk ?_ (by rw [signingDeferred, hbatch])
      rw [deferredClaims]
      exact fun c hc => List.mem_append_left _ ((List.mem_append.mp hc).elim
        (fun hc => (List.mem_filter.mp hc).1) (fun hc => (List.mem_filter.mp hc).1))
    · cases hstep
  | chunk size claimed =>
    simp only [State.step] at hstep
    split at hstep
    · rename_i claims hbatch
      obtain rfl := Option.some.inj hstep
      have hidle : s.signingDeferred = none := by rw [signingDeferred, hbatch]
      have hrest : claims.drop size ⊆ s.deferredClaims := by
        rw [deferredClaims_eq hbatch]
        exact fun c hc => List.mem_append_right _ (List.drop_subset _ _ hc)
      have hmap : s.swapsToClaim ⊆ s.deferredClaims := List.subset_append_left _ _
      cases claimed with
      | true => exact h.afterChunk (List.append_subset.mpr ⟨hmap, hrest⟩) hidle
      | false =>
        refine h.afterChunk (List.append_subset.mpr ⟨fun c hc => ?_, hrest⟩) hidle
        rcases mem_of_restored hc with hc | hc
        · exact hmap hc
        · rw [deferredClaims_eq hbatch]
          exact List.mem_append_right _ (List.take_subset _ _ hc)
    · cases hstep
  | signClaim id =>
    simp only [State.step] at hstep
    split at hstep
    · rename_i hcall
      obtain rfl := Option.some.inj hstep
      refine h.moved rfl h.details (List.Subset.refl _) rfl ?_
        (by rw [signingClaim, signingClaim, hcall])
      rw [claimables, claimables, hcall]
      exact List.Subset.refl _
    · cases hstep
  | getToClaimDetails =>
    simp only [State.step] at hstep
    split at hstep
    · rename_i id hcall
      split at hstep
      · rename_i claim hget
        split at hstep
        · obtain rfl := Option.some.inj hstep
          refine h.moved rfl h.details (List.Subset.refl _) rfl ?_
            (by rw [signingClaim, signingClaim, hcall])
          rw [claimables_eq hcall]
          refine List.append_subset.mpr ⟨List.subset_append_left _ _, fun c hc => ?_⟩
          exact List.mem_append_left _ (List.mem_singleton.mp hc ▸ mem_of_get hget)
        · cases hstep
      · cases hstep
    · cases hstep
  | signCooperatively valid =>
    simp only [State.step] at hstep
    split at hstep
    · rename_i claim hcall
      split at hstep
      · rename_i signed hsign
        obtain rfl := Option.some.inj hstep
        obtain ⟨nonce, hsession, rfl⟩ := signSession_eq_some hsign
        exact h.signCooperatively hcall hsession
      · obtain rfl := Option.some.inj hstep
        refine h.moved rfl h.details (List.Subset.refl _) rfl ?_
          (by rw [signingClaim, signingClaim, hcall])
        rw [claimables_eq hcall]
        exact List.append_subset.mpr ⟨List.subset_append_left _ _, List.nil_subset _⟩
    · cases hstep
  | claimBroadcast ok =>
    obtain rfl : ok = true := hadmits
    simp only [State.step] at hstep
    split at hstep
    · rename_i claim hcall
      obtain rfl := Option.some.inj hstep
      refine h.moved rfl h.details (List.Subset.refl _) rfl ?_
        (by rw [signingClaim, signingClaim, hcall]; rfl)
      rw [claimables_eq hcall]
      exact List.Subset.refl _
    · cases hstep
  | claimRemoved =>
    simp only [State.step] at hstep
    split at hstep
    · rename_i claim hcall
      obtain rfl := Option.some.inj hstep
      exact h.claimRemoved hcall
    · cases hstep
  | signClaimEnded =>
    simp only [State.step] at hstep
    split at hstep
    · rename_i id hcall
      obtain rfl := Option.some.inj hstep
      refine h.moved rfl h.details (List.Subset.refl _) rfl ?_
        (by rw [signingClaim, signingClaim, hcall])
      rw [claimables_eq hcall]
      exact List.Subset.refl _
    · cases hstep
  | createPartialSignature =>
    obtain rfl := Option.some.inj hstep
    exact h.createPartialSignature
  | createRescue id =>
    simp only [State.step] at hstep
    split at hstep
    · cases hstep
    · obtain rfl := Option.some.inj hstep
      exact h.keep (List.Subperm.refl _)
  | rescueFailed i =>
    obtain ⟨id, -, rfl⟩ := Option.map_eq_some_iff.mp hstep
    exact h.keep (List.Subperm.refl _)
  | rescueCreated i =>
    obtain ⟨id, -, rfl⟩ := Option.map_eq_some_iff.mp hstep
    exact h.rescueCreated id _
  | broadcastRescue id =>
    obtain ⟨rescue, hrescue, rfl⟩ := Option.map_eq_some_iff.mp hstep
    exact h.broadcastRescue hrescue
  | signRescue i valid =>
    obtain ⟨nonce, htaken, rfl⟩ := Option.map_eq_some_iff.mp hstep
    exact h.signRescue htaken valid
  | expireRescue id =>
    obtain rfl := Option.some.inj hstep
    exact h.keep (((List.filter_sublist.map _).append_right _).subperm)

/-- In every run in which no broadcast or fee lookup fails after our signature, every nonce signs at
most once. -/
theorem nonces_sign_once {s : State} {ops : List Op}
    (hrun : runFrom State.step State.broadcastSucceeds {} ops = some s) : s.signed.Nodup :=
  (invariant_of_runFrom inv_step inv_init hrun).valid.nodup

/-- A claim of each signer, a refund and a rescue. -/
def claimsAndRescue : List Op :=
  [.deferClaim ⟨0, .submarine, 7⟩, .registerForClaim 8, .getCooperativeDetails ⟨0, .submarine, 7⟩,
    .getChainSwapDetails 8, .detailsCreated 0, .detailsCreated 0, .createRescue 9, .rescueCreated 0,
    .broadcastCooperative ⟨0, .submarine, 7⟩, .signDeferred true, .signClaim 8,
    .getToClaimDetails, .broadcastRescue 9, .deferredBroadcast true, .signRescue 0 true,
    .signCooperatively true, .claimBroadcast true, .claimRemoved, .createPartialSignature]

theorem claimsAndRescue_sign_once :
    ∃ s, runFrom State.step State.broadcastSucceeds {} claimsAndRescue = some s ∧
      s.signed.Nodup := by
  obtain ⟨s, hrun⟩ := Option.isSome_iff_exists.mp
    (show (runFrom State.step State.broadcastSucceeds {} claimsAndRescue).isSome = true by
      decide +kernel)
  exact ⟨s, hrun, nonces_sign_once hrun⟩

/-- The broadcast of a signed claim fails, and the client sends another signature: both times the
server signs with its nonce `0`. -/
theorem nonce_signs_again :
    (runFrom State.step (fun _ _ => true) {}
      [.deferClaim ⟨0, .submarine, 7⟩, .getCooperativeDetails ⟨0, .submarine, 7⟩, .detailsCreated 0,
        .broadcastCooperative ⟨0, .submarine, 7⟩, .signDeferred true, .deferredBroadcast false,
        .broadcastCooperative ⟨0, .submarine, 7⟩, .signDeferred true]).map (·.signed) =
      some [0, 0] := by
  decide +kernel

end State

end Boltz.MusigSessions
