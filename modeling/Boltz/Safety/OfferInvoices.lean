import Boltz.Safety.OfferOwners

/-!
# Invoices that are fetched for offers

An invoice that a call returns is signed by the issuer of the offer, whoever responded. A response to
a hook reaches the call that waits for it.
-/

namespace Boltz.Offers

open Async Caches

variable {lib : Lib} {s s' : State lib} {op : Op lib}

/-! ## Signed by the issuer -/

/-- An invoice that the key signed. -/
def SignedInvoice (lib : Lib) (row : Offer) (fetched : Fetched lib) : Prop :=
  lib.decode fetched.1 = .ok (.bolt12 fetched.2) ∧ lib.serialize fetched.2 = row.signer

structure Invoices (s : State lib) : Prop where
  rows : ∀ call ∈ s.calls, Registered lib call.row ∧ call.hook.offer = call.row.offer
  results : ∀ call ∈ s.calls, ∀ fetched, call.stage = .done (.ok fetched) →
    SignedInvoice lib call.row fetched

section

variable {row : Offer} {fetched : Fetched lib}

theorem parseInvoice_ok {invoice : String} (h : parseInvoice lib invoice = .ok fetched) :
    lib.decode fetched.1 = .ok (.bolt12 fetched.2) := by
  obtain ⟨key, hkey, h⟩ := bind_eq_ok.mp h
  cases h
  obtain ⟨decoded, hdecode, hkey⟩ := bind_eq_ok.mp hkey
  split at hkey
  · cases hkey
    exact hdecode
  · cases hkey

theorem validated_ok {parsed : Except String (Fetched lib)}
    (h : validated lib row parsed = .ok fetched) :
    parsed = .ok fetched ∧ lib.serialize fetched.2 = row.signer := by
  obtain ⟨⟨invoice, key⟩, hparsed, h⟩ := bind_eq_ok.mp h
  obtain ⟨⟨⟩, hsigner, h⟩ := bind_eq_ok.mp h
  cases h
  unfold validateInvoiceSigner at hsigner
  split at hsigner
  · cases hsigner
  · rename_i hsame
    exact ⟨hparsed, not_not.mp hsame⟩

theorem handleResponse_ok {res : Except String String}
    (h : handleResponse lib row res = .ok fetched) : SignedInvoice lib row fetched := by
  obtain ⟨hparsed, hsigner⟩ := validated_ok h
  cases res with
  | ok invoice => exact ⟨parseInvoice_ok hparsed, hsigner⟩
  | error err => cases hparsed

theorem handleBody_ok {data : Bytes} (h : handleBody lib row data = .ok fetched) :
    SignedInvoice lib row fetched := by
  obtain ⟨hparsed, hsigner⟩ := validated_ok h
  split at hparsed
  · exact ⟨parseInvoice_ok hparsed, hsigner⟩
  · obtain ⟨err, -, hparsed⟩ := bind_eq_ok.mp hparsed
    cases hparsed

theorem Invoices.init : Invoices (.init lib) where
  rows := fun _ h => absurd h List.not_mem_nil
  results := fun _ h => absurd h List.not_mem_nil

/-- Calls that are as they were before, or still running. -/
theorem Invoices.of_calls (hi : Invoices s)
    (h : ∀ call ∈ s'.calls, ∃ old ∈ s.calls, call.row = old.row ∧ call.hook = old.hook ∧
      ∀ fetched, call.stage = .done (.ok fetched) →
        old.stage = call.stage ∨ SignedInvoice lib call.row fetched) : Invoices s' where
  rows := by
    intro call hcall
    obtain ⟨old, hold, hrow, hhook, -⟩ := h call hcall
    rw [hrow, hhook]
    exact hi.rows old hold
  results := by
    intro call hcall fetched hdone
    obtain ⟨old, hold, hrow, -, hresult⟩ := h call hcall
    rcases hresult fetched hdone with hsame | hsigned
    · rw [hrow]
      exact hi.results old hold fetched (hsame.trans hdone)
    · exact hsigned

theorem Invoices.of_eq (hi : Invoices s) (h : s'.calls = s.calls) : Invoices s' := by
  refine hi.of_calls fun call hcall => ⟨call, h ▸ hcall, rfl, rfl, fun _ _ => .inl rfl⟩

/-- Connections leave the calls alone. -/
theorem State.Serves.requests_eq {connectionId : ConnectionId} (h : s.Serves connectionId op s') :
    s'.calls = s.calls ∧ s'.answers = s.answers ∧ s'.pendingHooks = s.pendingHooks ∧
      s'.now = s.now := by
  cases h with
  | subscribed hsocket =>
    unfold State.subscribe
    split
    · exact ⟨rfl, rfl, rfl, rfl⟩
    · dsimp only
      split
      · exact ⟨rfl, rfl, rfl, rfl⟩
      · exact ⟨rfl, rfl, rfl, rfl⟩
  | _ => exact ⟨rfl, rfl, rfl, rfl⟩

theorem Call.Moves.result {shared shared' : Shared} {call call' : Call lib}
    (h : call.Moves shared shared' call') (hdone : call'.stage = .done (.ok fetched)) :
    call.stage = call'.stage ∨ SignedInvoice lib call'.row fetched := by
  cases h with
  | responded hstage hresponses hid =>
    exact .inr (handleResponse_ok (Stage.done.inj hdone))
  | answered hstage hcalls => exact .inr (handleBody_ok (Stage.done.inj hdone))
  | skipped hstage _ _ => exact .inl rfl
  | skippedCall hstage => exact .inl rfl
  | _ => cases hdone

theorem Invoices.step (hregistry : Registry s) (hi : Invoices s) (h : s.Moves op s') :
    Invoices s' := by
  cases h with
  | served h => exact hi.of_eq h.requests_eq.1
  | @broadcast i response hanswer =>
    refine hi.of_calls fun call hcall => ?_
    obtain ⟨old, hold, rfl⟩ := List.mem_map.mp hcall
    refine ⟨old, hold, ?_⟩
    unfold Call.addResponse
    split
    · exact ⟨rfl, rfl, fun _ _ => .inl rfl⟩
    · exact ⟨rfl, rfl, fun _ _ => .inl rfl⟩
  | webhook success =>
    refine hi.of_calls fun call hcall => ?_
    obtain ⟨old, hold, rfl⟩ := List.mem_map.mp hcall
    refine ⟨old, hold, ?_⟩
    unfold Call.addSuccessfulCall
    split
    · exact ⟨rfl, rfl, fun _ _ => .inl rfl⟩
    · exact ⟨rfl, rfl, fun _ _ => .inl rfl⟩
  | @started _ row invoiceRequest hop hrow =>
    refine ⟨fun call hcall => ?_, fun call hcall fetched hdone => ?_⟩
    · rcases List.mem_append.mp hcall with hcall | hcall
      · exact hi.rows call hcall
      · rw [List.mem_singleton.mp hcall]
        exact ⟨hregistry.rows row hrow, rfl⟩
    · rcases List.mem_append.mp hcall with hcall | hcall
      · exact hi.results call hcall fetched hdone
      · rw [List.mem_singleton.mp hcall] at hdone
        cases hdone
  | @called i callOp call call' shared hcall h =>
    refine hi.of_calls fun other hother => ?_
    rcases List.mem_or_eq_of_mem_set hother with hother | rfl
    · exact ⟨other, hother, rfl, rfl, fun _ _ => .inl rfl⟩
    · exact ⟨call, List.mem_of_getElem? hcall, h.kept.2, h.kept.1, fun _ hdone => h.result hdone⟩
  | _ => exact hi.of_eq rfl

/-- Who responds to a hook, or how often, does not matter: an invoice that is returned for an offer
is signed by the issuer of the offer. -/
theorem invoices_signed_by_issuer (hlaw : Lawful lib) {ops : List (Op lib)}
    (h : runFrom step anyOp (.init lib) ops = some s) {call : Call lib} (hcall : call ∈ s.calls)
    {invoice : String} {key : lib.PublicKey} (hdone : call.stage = .done (.ok (invoice, key))) :
    lib.decode invoice = .ok (.bolt12 key) ∧
      lib.decode call.hook.offer = .ok (.offer (some key)) := by
  obtain ⟨-, hi⟩ := invariant_of_run hlaw (fun s => Registry s ∧ Invoices s)
    (fun _ _ _ ⟨hregistry, hi⟩ _ h => ⟨hregistry.step h, hi.step hregistry h⟩)
    ⟨Registry.init, Invoices.init⟩ h
  obtain ⟨hdecode, hsigner⟩ := hi.results call hcall _ hdone
  obtain ⟨⟨⟨issuer, hissuer, hrow⟩, -⟩, hhook⟩ := hi.rows call hcall
  obtain rfl := hlaw.serialize_injective (hsigner.trans hrow)
  exact ⟨hdecode, hhook ▸ hissuer⟩

end

theorem invoices_signed_by_issuer_example : ∃ (s : State exampleLib) (call : Call exampleLib),
    runFrom step anyOp (.init exampleLib) (exampleSubscription ++ exampleRequest ++
      [.deliver 7, .respond 1 (.ok "lni1"), .broadcast 0, .call 0 .receive]) = some s ∧
    s.calls = [call] ∧ exampleLib.decode "lni1" = .ok (.bolt12 (1 : UInt8)) ∧
      exampleLib.decode call.hook.offer = .ok (.offer (some (1 : UInt8))) := by
  obtain ⟨s, call, h, hcalls, hdone⟩ : ∃ (s : State exampleLib) (call : Call exampleLib),
      runFrom step anyOp (.init exampleLib) (exampleSubscription ++ exampleRequest ++
        [.deliver 7, .respond 1 (.ok "lni1"), .broadcast 0, .call 0 .receive]) = some s ∧
      s.calls = [call] ∧ call.stage = .done (.ok ("lni1", (1 : UInt8))) := ⟨_, _, rfl, rfl, rfl⟩
  exact ⟨s, call, h, hcalls, invoices_signed_by_issuer lawful_exampleLib h
    (hcalls ▸ List.mem_singleton_self call) hdone⟩

/-! ## Responses arrive -/

/-- No two calls are for hooks with the same id. -/
def distinctHooks (s : State lib) (op : Op lib) : Bool :=
  op.invoiceRequest?.all fun invoiceRequest => s.calls.all fun call =>
    call.hook.id lib ≠ lib.hashRequest (lib.hexEncode invoiceRequest)

/-- Since when the hook of a call is pending. -/
def Call.since (call : Call lib) : Option Nat :=
  match call.stage with
  | .sending _ since | .waiting since _ => some since
  | _ => none

/-- Somebody has responded to the hook of a call. -/
def Answered (s : State lib) (call : Call lib) : Prop :=
  ∃ response ∈ s.answers ++ call.responses, response.1.id lib = call.hook.id lib

def Call.pending (call : Call lib) (since : Nat) : Entry InvoiceHook :=
  { value := call.hook, expiresAt := some (since + INVOICE_REQUEST_TIMEOUT) }

/-- Until it expires, the hook of a call that waits is pending, or there is a response. -/
def Awaits (s : State lib) (call : Call lib) : Prop :=
  ∀ since ∈ call.since, s.now < since + INVOICE_REQUEST_TIMEOUT →
    s.pendingHooks (call.hook.id lib) = some (call.pending since) ∨ Answered s call

structure Awaited (s : State lib) : Prop where
  distinct : ∀ {i j : Nat} {call other : Call lib}, s.calls[i]? = some call →
    s.calls[j]? = some other → call.hook.id lib = other.hook.id lib → i = j
  pending : ∀ {hookId entry}, s.pendingHooks hookId = some entry → entry.value.id lib = hookId
  calls : ∀ {i : Nat} {call : Call lib}, s.calls[i]? = some call → Awaits s call

section

variable {call call' : Call lib} {hookId : HookId} {entry : Entry InvoiceHook}
variable {pendingHooks : ExpiringMap HookId InvoiceHook} {now : Nat}

theorem cleanup_eq_some : TimeoutMap.cleanup now pendingHooks hookId = some entry ↔
    pendingHooks hookId = some entry ∧ entry.isLive now = true :=
  Option.filter_eq_some_iff

theorem insert_eq_some {key : HookId} {value : InvoiceHook} {ttl : Nat}
    (h : TimeoutMap.insert now ttl pendingHooks key value hookId = some entry) :
    hookId = key ∧ entry = { value := value, expiresAt := some (now + ttl) } ∨
      pendingHooks hookId = some entry := by
  unfold TimeoutMap.insert at h
  by_cases hkey : hookId = key
  · rw [hkey, Function.update_self] at h
    exact .inl ⟨hkey, (Option.some.inj h).symm⟩
  · rw [Function.update_of_ne hkey] at h
    exact .inr (cleanup_eq_some.mp h).1

theorem remove_eq_some {key : HookId}
    (h : (TimeoutMap.remove now pendingHooks key).2 hookId = some entry) :
    pendingHooks hookId = some entry := by
  unfold TimeoutMap.remove at h
  dsimp only at h
  by_cases hkey : hookId = key
  · rw [hkey, Function.update_self] at h
    cases h
  · rw [Function.update_of_ne hkey] at h
    exact (cleanup_eq_some.mp h).1

theorem remove_of_ne {key : HookId} (hkey : hookId ≠ key) (h : pendingHooks hookId = some entry)
    (hlive : entry.isLive now = true) :
    (TimeoutMap.remove now pendingHooks key).2 hookId = some entry :=
  (Function.update_of_ne hkey _ _).trans (cleanup_eq_some.mpr ⟨h, hlive⟩)

theorem pending_live {since : Nat} (h : now < since + INVOICE_REQUEST_TIMEOUT) :
    (call.pending since).isLive now = true :=
  decide_eq_true h

theorem Awaited.init : Awaited (.init lib) where
  distinct := fun h => nomatch h
  pending := fun h => nomatch h
  calls := fun h => nomatch h

/-- Hooks that are pending stay so, and responses too. -/
theorem Awaits.mono (h : Awaits s call) (hnow : s.now ≤ s'.now)
    (hpending : ∀ {entry}, s.pendingHooks (call.hook.id lib) = some entry →
      entry.isLive s.now = true →
      s'.pendingHooks (call.hook.id lib) = some entry ∨ Answered s' call)
    (hanswers : Answered s call → Answered s' call) : Awaits s' call := by
  intro since hsince hlate
  have hlive : s.now < since + INVOICE_REQUEST_TIMEOUT := by omega
  rcases h since hsince hlive with hold | hanswered
  · exact hpending hold (pending_live hlive)
  · exact .inr (hanswers hanswered)

theorem Awaited.congr (hi : Awaited s) (hcalls : s'.calls = s.calls)
    (hanswers : s'.answers = s.answers) (hpending : s'.pendingHooks = s.pendingHooks)
    (hnow : s.now ≤ s'.now) : Awaited s' where
  distinct := by
    rw [hcalls]
    exact hi.distinct
  pending := by
    rw [hpending]
    exact hi.pending
  calls := by
    rw [hcalls]
    intro i call hcall
    refine (hi.calls hcall).mono hnow (fun h _ => .inl (hpending ▸ h)) fun h => ?_
    rwa [Answered, hanswers]

/-- The calls are told something. -/
theorem Awaited.map (hi : Awaited s) {f : Call lib → Call lib}
    (hf : ∀ call, (f call).hook = call.hook ∧ (f call).since = call.since)
    (hcalls : s'.calls = s.calls.map f) (hpending : s'.pendingHooks = s.pendingHooks)
    (hnow : s'.now = s.now)
    (hanswers : ∀ call, (f call).since ≠ none → Answered s call → Answered s' (f call)) :
    Awaited s' where
  distinct := by
    intro i j call other hcall hother hid
    rw [hcalls, List.getElem?_map, Option.map_eq_some_iff] at hcall hother
    obtain ⟨call, hcall, rfl⟩ := hcall
    obtain ⟨other, hother, rfl⟩ := hother
    rw [(hf call).1, (hf other).1] at hid
    exact hi.distinct hcall hother hid
  pending := by
    rw [hpending]
    exact hi.pending
  calls := by
    intro i call hcall
    rw [hcalls, List.getElem?_map, Option.map_eq_some_iff] at hcall
    obtain ⟨call, hcall, rfl⟩ := hcall
    intro since hsince hlate
    have hsome : (f call).since ≠ none := fun hnone => nomatch hnone ▸ hsince
    rw [(hf call).2] at hsince
    rw [hnow] at hlate
    rw [hpending, (hf call).1]
    rcases hi.calls hcall since hsince hlate with hold | hanswered
    · refine .inl (hold.trans ?_)
      rw [Call.pending, Call.pending, (hf call).1]
    · exact .inr (hanswers call hsome hanswered)

/-- A response that removes the hook of a call is an answer to it. -/
theorem Awaited.respond (hi : Awaited s) (hookId : HookId) (res : Except String String) :
    Awaited (s.respond hookId res) where
  distinct := hi.distinct
  pending := fun h => hi.pending (remove_eq_some h)
  calls := by
    intro i call hcall
    refine (hi.calls hcall).mono (Nat.le_refl _) (fun {entry} hold hlive => ?_) fun hanswered => ?_
    · by_cases hid : call.hook.id lib = hookId
      · subst hid
        refine .inr ⟨(entry.value, res), List.mem_append_left _ ?_, hi.pending hold⟩
        refine List.mem_append_right _ ?_
        rw [cleanup_eq_some.mpr ⟨hold, hlive⟩]
        exact List.mem_singleton_self _
      · exact .inl (remove_of_ne hid hold hlive)
    · obtain ⟨response, hresponse, hid⟩ := hanswered
      refine ⟨response, ?_, hid⟩
      rcases List.mem_append.mp hresponse with hresponse | hresponse
      · exact List.mem_append_left _ (List.mem_append_left _ hresponse)
      · exact List.mem_append_right _ hresponse

theorem Call.listens_of_since (h : call.since ≠ none) : call.listens = true := by
  unfold Call.since at h
  unfold Call.listens
  split at h
  · rename_i hstage
    rw [hstage]
  · rename_i hstage
    rw [hstage]
  · exact absurd rfl h

theorem Call.addResponse_eq (h : call.listens = true) (response : InvoiceResponse) :
    call.addResponse response = { call with responses := call.responses ++ [response] } :=
  if_pos h

theorem Awaited.broadcast (hi : Awaited s) {i : Nat} {response : InvoiceResponse}
    (hanswer : s.answers[i]? = some response) :
    Awaited
      { s with
        answers := s.answers.eraseIdx i
        calls := s.calls.map (·.addResponse response) } := by
  refine hi.map (fun call => ?_) rfl rfl rfl fun call hsince hanswered => ?_
  · unfold Call.addResponse
    split
    · exact ⟨rfl, rfl⟩
    · exact ⟨rfl, rfl⟩
  · by_cases hlistens : call.listens = true
    · rw [Call.addResponse_eq hlistens]
      obtain ⟨other, hother, hid⟩ := hanswered
      refine ⟨other, ?_, hid⟩
      rcases List.mem_append.mp hother with hother | hother
      · rcases mem_eraseIdx_or hanswer hother with rfl | hother
        · exact List.mem_append_right _ (List.mem_append_right _ (List.mem_singleton_self _))
        · exact List.mem_append_left _ hother
      · exact List.mem_append_right _ (List.mem_append_left _ hother)
    · refine absurd (Call.listens_of_since ?_) hlistens
      rwa [Call.addResponse, if_neg hlistens] at hsince

theorem getElem?_concat_cases {α : Type} {l : List α} {a b : α} {i : Nat}
    (h : (l ++ [a])[i]? = some b) : l[i]? = some b ∨ i = l.length ∧ b = a := by
  rcases Nat.lt_trichotomy i l.length with hlt | rfl | hlt
  · rw [List.getElem?_append_left hlt] at h
    exact .inl h
  · rw [List.getElem?_concat_length] at h
    exact .inr ⟨rfl, (Option.some.inj h).symm⟩
  · rw [List.getElem?_eq_none (by rw [List.length_append]; exact hlt)] at h
    cases h

theorem Awaited.start (hi : Awaited s) (row : Offer) {invoiceRequest : Bytes}
    (hnew : s.calls.all fun call =>
      call.hook.id lib ≠ lib.hashRequest (lib.hexEncode invoiceRequest)) :
    Awaited (s.startCall row invoiceRequest) where
  distinct := by
    have hother : ∀ {j : Nat} {other : Call lib}, s.calls[j]? = some other →
        other.hook.id lib ≠ lib.hashRequest (lib.hexEncode invoiceRequest) := fun hother =>
      of_decide_eq_true (List.all_eq_true.mp hnew _ (List.mem_of_getElem? hother))
    intro i j call other hcall hcall' hid
    rcases getElem?_concat_cases hcall with hcall | ⟨rfl, rfl⟩
    · rcases getElem?_concat_cases hcall' with hcall' | ⟨rfl, rfl⟩
      · exact hi.distinct hcall hcall' hid
      · exact absurd hid (hother hcall)
    · rcases getElem?_concat_cases hcall' with hcall' | ⟨rfl, rfl⟩
      · exact absurd hid.symm (hother hcall')
      · rfl
  pending := hi.pending
  calls := by
    intro i call hcall
    rcases getElem?_concat_cases hcall with hcall | ⟨rfl, rfl⟩
    · exact (hi.calls hcall).mono (Nat.le_refl _) (fun h _ => .inl h) fun h => h
    · exact fun _ hsince => nomatch hsince

/-- A call changes nothing but its own hook. -/
theorem Call.Moves.pending {shared : Shared} (h : call.Moves s.toShared shared call') :
    shared.now = s.now ∧
    (∀ {hookId entry}, shared.pendingHooks hookId = some entry →
      hookId = call.hook.id lib ∧ entry.value = call.hook ∨
        s.pendingHooks hookId = some entry) ∧
    ∀ {hookId entry}, hookId ≠ call.hook.id lib → s.pendingHooks hookId = some entry →
      entry.isLive s.now = true → shared.pendingHooks hookId = some entry := by
  cases h with
  | cleaned hstage =>
    unfold Call.cleanup
    split
    · exact ⟨rfl, fun h => .inr h, fun _ h _ => h⟩
    · exact ⟨rfl, fun h => .inr h, fun _ h _ => h⟩
  | inserted hstage =>
    refine ⟨rfl, fun h => ?_, fun hid h hlive => ?_⟩
    · rcases insert_eq_some h with ⟨hid, rfl⟩ | h
      · exact .inl ⟨hid, rfl⟩
      · exact .inr h
    · exact (Function.update_of_ne hid _ _).trans (cleanup_eq_some.mpr ⟨h, hlive⟩)
  | unsent hstage hclosed =>
    exact ⟨rfl, fun h => .inr (remove_eq_some h), fun hid h hlive => remove_of_ne hid h hlive⟩
  | _ => exact ⟨rfl, fun h => .inr h, fun _ h _ => h⟩

/-- What a call that goes on waiting finds. -/
theorem Call.Moves.awaits {shared : Shared} (hi : Awaits s call) {i : Nat}
    (h : call.Moves s.toShared shared call') :
    Awaits { s with toShared := shared, calls := s.calls.set i call' } call' := by
  intro since hsince hlate
  have hcall : ∀ old ∈ call.since, s.now < old + INVOICE_REQUEST_TIMEOUT →
      s.pendingHooks (call.hook.id lib) = some (call.pending old) ∨ Answered s call := hi
  cases h with
  | inserted hstage =>
    cases hsince
    exact .inl (Function.update_self ..)
  | sent hstage hchannel =>
    cases hsince
    refine hcall _ ?_ hlate
    rw [Call.since, hstage]
    rfl
  | @skipped _ deadline response responses hstage hresponses hid =>
    rcases hcall since hsince hlate with hold | ⟨other, hother, hsame⟩
    · exact .inl hold
    · refine .inr ⟨other, ?_, hsame⟩
      rw [hresponses] at hother
      rcases List.mem_append.mp hother with hother | hother
      · exact List.mem_append_left _ hother
      · rcases List.mem_cons.mp hother with rfl | hother
        · exact absurd hsame hid
        · exact List.mem_append_right _ hother
  | skippedCall hstage =>
    rw [Call.since] at hsince
    dsimp only at hsince
    rw [hstage] at hsince
    cases hsince
  | _ => cases hsince

theorem Awaited.called (hi : Awaited s) {i : Nat} {shared : Shared}
    (hcall : s.calls[i]? = some call) (h : call.Moves s.toShared shared call') :
    Awaited { s with toShared := shared, calls := s.calls.set i call' } := by
  obtain ⟨hnow, hentries, hothers⟩ := h.pending
  have hold : ∀ {j : Nat} {other : Call lib}, (s.calls.set i call')[j]? = some other →
      ∃ old, s.calls[j]? = some old ∧ old.hook = other.hook := by
    intro j other hother
    rcases getElem?_set_cases hother with ⟨rfl, rfl⟩ | ⟨-, hother⟩
    · exact ⟨call, hcall, h.kept.1.symm⟩
    · exact ⟨other, hother, rfl⟩
  refine ⟨fun {j k first second} hfirst hsecond hid => ?_, fun {hookId entry} hentry => ?_,
    fun {j other} hother => ?_⟩
  · obtain ⟨old, hfirst, heq⟩ := hold hfirst
    obtain ⟨old', hsecond, heq'⟩ := hold hsecond
    rw [← heq, ← heq'] at hid
    exact hi.distinct hfirst hsecond hid
  · rcases hentries hentry with ⟨rfl, hvalue⟩ | hentry
    · rw [hvalue]
    · exact hi.pending hentry
  · rcases getElem?_set_cases hother with ⟨rfl, rfl⟩ | ⟨hj, hother⟩
    · exact h.awaits (hi.calls hcall)
    · refine (hi.calls hother).mono (Nat.le_of_eq hnow.symm) (fun hpending hlive => ?_) fun h => h
      refine .inl (hothers (fun hid => hj ?_) hpending hlive)
      exact hi.distinct hother hcall hid

theorem Awaited.step (hi : Awaited s) (hdistinct : distinctHooks s op = true)
    (h : s.Moves op s') : Awaited s' := by
  have hnow := Nat.le_refl s.now
  cases h with
  | served h =>
    obtain ⟨hcalls, hanswers, hpending, hnow⟩ := h.requests_eq
    exact hi.congr hcalls hanswers hpending (Nat.le_of_eq hnow.symm)
  | responded hookId res => exact hi.respond hookId res
  | broadcast hanswer => exact hi.broadcast hanswer
  | @started _ row invoiceRequest hop hrow =>
    rw [distinctHooks, hop] at hdistinct
    exact hi.start row hdistinct
  | called hcall h => exact hi.called hcall h
  | webhook success =>
    refine hi.map (fun call => ?_) rfl rfl rfl fun call _ hanswered => ?_
    · unfold Call.addSuccessfulCall
      split
      · exact ⟨rfl, rfl⟩
      · exact ⟨rfl, rfl⟩
    · unfold Call.addSuccessfulCall
      split
      · exact hanswered
      · exact hanswered
  | ticked => exact hi.congr rfl rfl rfl (Nat.le_succ _)
  | _ => exact hi.congr rfl rfl rfl hnow

/-- While a hook is pending, the first response to it reaches the call that waits for it. -/
theorem response_reaches_call (hlaw : Lawful lib) {ops : List (Op lib)}
    (h : runFrom step distinctHooks (.init lib) ops = some s) {i : Nat}
    (hcall : s.calls[i]? = some call) {since : Nat} (hsince : call.since = some since)
    (hlate : s.now < since + INVOICE_REQUEST_TIMEOUT) (res : Except String String) :
    Answered s call ∨
    ∃ s', runFrom step distinctHooks s
        [.respond (call.hook.id lib) res, .broadcast s.answers.length] = some s' ∧
      s'.calls[i]? = some { call with responses := call.responses ++ [(call.hook, res)] } := by
  have hi := invariant_of_run hlaw Awaited (fun _ _ _ hi hop h => hi.step hop h) Awaited.init h
  refine (hi.calls hcall since hsince hlate).symm.imp_right fun hpending => ?_
  have hanswers : (s.respond (call.hook.id lib) res).answers =
      s.answers ++ [(call.hook, res)] := by
    refine congrArg (s.answers ++ ·) ?_
    rw [cleanup_eq_some.mpr ⟨hpending, pending_live hlate⟩]
    rfl
  have hlistens : call.listens = true :=
    Call.listens_of_since (hsince ▸ fun hnone => nomatch hnone)
  have hresponse : (s.respond (call.hook.id lib) res).answers[s.answers.length]? =
      some (call.hook, res) := by
    rw [hanswers, List.getElem?_concat_length]
  refine ⟨{ s.respond (call.hook.id lib) res with
    answers := (s.respond (call.hook.id lib) res).answers.eraseIdx s.answers.length
    calls := s.calls.map (·.addResponse (call.hook, res)) }, ?_, ?_⟩
  · simp only [runFrom, distinctHooks, Op.invoiceRequest?, Option.all_none, if_true, step,
      Option.bind_some, hresponse]
    rfl
  · rw [List.getElem?_map, hcall, Option.map_some, Call.addResponse_eq hlistens]

theorem response_reaches_call_example : ∃ (s : State exampleLib) (call : Call exampleLib),
    runFrom step distinctHooks (.init exampleLib) (exampleSubscription ++ exampleRequest) =
      some s ∧
    s.calls[0]? = some call ∧
    (Answered s call ∨ ∃ s', runFrom step distinctHooks s
        [.respond (call.hook.id exampleLib) (.ok "lni1"), .broadcast s.answers.length] = some s' ∧
      s'.calls[0]? = some
        { call with responses := call.responses ++ [(call.hook, .ok "lni1")] }) := by
  obtain ⟨s, call, h, hcall, hsince, hnow⟩ : ∃ (s : State exampleLib) (call : Call exampleLib),
      runFrom step distinctHooks (.init exampleLib) (exampleSubscription ++ exampleRequest) =
        some s ∧
      s.calls[0]? = some call ∧ call.since = some 0 ∧ s.now = 0 := ⟨_, _, rfl, rfl, rfl, rfl⟩
  refine ⟨s, call, h, hcall, response_reaches_call lawful_exampleLib h hcall hsince ?_ (.ok "lni1")⟩
  rw [hnow]
  decide

end

end Boltz.Offers
