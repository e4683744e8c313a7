import Boltz.Core.SwapScripts

/-!
# Swap scripts are hash time locks

Each script accepts a claim, which reveals a preimage, or a refund, for which the lock time has
passed, and nothing else. What selects the branch is the hash of an item in `swap_script`, and its
length in `reverse_script`. The builders of both chains push numbers in different ways, which does
not matter for what is accepted.
-/

namespace Boltz.Core

open Script (Builder Item Pushes Rules accepts acceptsFrom opCheckSig opCheckSigVerify opCltv opDrop
  opElse opEndIf opEqual opEqualVerify opHash160 opIf opSize scriptInt)

/-! ## What is accepted -/

variable {rules : Rules} {stack : List Item} {hash item signature : Bytes} {lockTime : UInt32}

/-- The item reveals a preimage, with a signature of the claim key. -/
def Claims (rules : Rules) (hash claimKey item signature : Bytes) : Prop :=
  rules.hash160 item = hash ∧ rules.checkSig signature claimKey = true

/-- The lock time has passed, with a signature of the refund key. -/
def Refunds (rules : Rules) (lockTime : UInt32) (refundKey signature : Bytes) : Prop :=
  rules.lockTimeSatisfied lockTime.toNat = true ∧ rules.checkSig signature refundKey = true

/-- The preimage is on top of the signature, and so is what stands in its place for a refund. -/
def SwapScriptSpends (rules : Rules) (hash claimKey refundKey : Bytes) (lockTime : UInt32)
    (stack : List Item) : Prop :=
  ∃ item signature, stack = [item, signature] ∧
    (Claims rules hash claimKey item signature ∨
      rules.hash160 item ≠ hash ∧ Refunds rules lockTime refundKey signature)

def ReverseScriptSpends (rules : Rules) (hash claimKey refundKey : Bytes) (lockTime : UInt32)
    (stack : List Item) : Prop :=
  ∃ item signature, stack = [item, signature] ∧
    (item.length = 32 ∧ Claims rules hash claimKey item signature ∨
      item.length ≠ 32 ∧ Refunds rules lockTime refundKey signature)

def ClaimLeafSpends (rules : Rules) (hash claimKey : Bytes) (stack : List Item) : Prop :=
  ∃ item signature, stack = [item, signature] ∧ Claims rules hash claimKey item signature

def SizedClaimLeafSpends (rules : Rules) (hash claimKey : Bytes) (stack : List Item) : Prop :=
  ∃ item signature, stack = [item, signature] ∧ item.length = 32 ∧
    Claims rules hash claimKey item signature

def RefundLeafSpends (rules : Rules) (refundKey : Bytes) (lockTime : UInt32)
    (stack : List Item) : Prop :=
  ∃ signature, stack = [signature] ∧ Refunds rules lockTime refundKey signature

/-! ## Layouts -/

/-- `number` is a push of the lock time. -/
def swapLayout (hash claimKey refundKey number : Bytes) : Bytes :=
  opHash160 :: (Script.pushSlice [] hash ++ opEqual :: opIf :: (Script.pushSlice [] claimKey ++
    opElse :: (number ++ opCltv :: opDrop :: (Script.pushSlice [] refundKey ++
      [opEndIf, opCheckSig]))))

def reverseLayout (size hash claimKey refundKey number : Bytes) : Bytes :=
  opSize :: (size ++ opEqual :: opIf :: opHash160 :: (Script.pushSlice [] hash ++ opEqualVerify ::
    (Script.pushSlice [] claimKey ++ opElse :: opDrop :: (number ++ opCltv :: opDrop ::
      (Script.pushSlice [] refundKey ++ [opEndIf, opCheckSig])))))

/-! ## Swap scripts -/

theorem accepts_swapLayout {hash claimKey refundKey number : Bytes}
    (hhash : hash.length ≤ Script.maxElementSize) (hclaim : claimKey.length ≤ Script.maxElementSize)
    (hrefund : refundKey.length ≤ Script.maxElementSize)
    (hnumber : Pushes number (scriptInt lockTime.toNat)) :
    accepts rules (swapLayout hash claimKey refundKey number) stack = true ↔
      SwapScriptSpends rules hash claimKey refundKey lockTime stack := by
  unfold accepts swapLayout SwapScriptSpends
  rcases stack with _ | ⟨item, stack⟩
  · rw [Script.acceptsFrom_underflow rfl (by simp)]
    simp
  rw [Script.acceptsFrom_hash160 rfl, (Script.pushes_pushSlice hhash).run rfl,
    Script.acceptsFrom_equal rfl, Script.acceptsFrom_opIf rfl]
  by_cases hitem : hash = rules.hash160 item
  · rw [decide_eq_true hitem, (Script.pushes_pushSlice hclaim).run rfl, Script.acceptsFrom_opElse,
      hnumber.skip rfl, Script.acceptsFrom_skip (by decide) rfl (by decide),
      Script.acceptsFrom_skip (by decide) rfl (by decide),
      (Script.pushes_pushSlice hrefund).skip rfl, Script.acceptsFrom_opEndIf,
      Script.acceptsFrom_checkSig]
    constructor
    · rintro ⟨signature, rfl, hvalid⟩
      exact ⟨item, signature, rfl, .inl ⟨hitem.symm, hvalid⟩⟩
    · rintro ⟨item', signature, hstack, hclaims | ⟨hne, -⟩⟩
      · obtain ⟨rfl, rfl⟩ := List.cons.inj hstack
        exact ⟨signature, rfl, hclaims.2⟩
      · obtain ⟨rfl, -⟩ := List.cons.inj hstack
        exact absurd hitem.symm hne
  · rw [decide_eq_false hitem, (Script.pushes_pushSlice hclaim).skip rfl,
      Script.acceptsFrom_opElse, hnumber.run rfl, Script.acceptsFrom_cltv rfl lockTime.toNat_lt,
      Script.acceptsFrom_drop rfl, (Script.pushes_pushSlice hrefund).run rfl,
      Script.acceptsFrom_opEndIf, Bool.and_eq_true, Script.acceptsFrom_checkSig]
    constructor
    · rintro ⟨hlock, signature, rfl, hvalid⟩
      exact ⟨item, signature, rfl, .inr ⟨fun h => hitem h.symm, hlock, hvalid⟩⟩
    · rintro ⟨item', signature, hstack, hclaims | ⟨-, hrefunds⟩⟩
      · obtain ⟨rfl, -⟩ := List.cons.inj hstack
        exact absurd hclaims.1.symm hitem
      · obtain ⟨-, rfl⟩ := List.cons.inj hstack
        exact ⟨hrefunds.1, signature, rfl, hrefunds.2⟩

theorem accepts_reverseLayout {size hash claimKey refundKey number : Bytes}
    (hsize : Pushes size (scriptInt (32 : ℕ)))
    (hhash : hash.length ≤ Script.maxElementSize) (hclaim : claimKey.length ≤ Script.maxElementSize)
    (hrefund : refundKey.length ≤ Script.maxElementSize)
    (hnumber : Pushes number (scriptInt lockTime.toNat)) :
    accepts rules (reverseLayout size hash claimKey refundKey number) stack = true ↔
      ReverseScriptSpends rules hash claimKey refundKey lockTime stack := by
  unfold accepts reverseLayout ReverseScriptSpends
  rcases stack with _ | ⟨item, stack⟩
  · rw [Script.acceptsFrom_underflow rfl (by simp)]
    simp
  rw [Script.acceptsFrom_size rfl, hsize.run rfl, Script.acceptsFrom_equal rfl,
    Script.acceptsFrom_opIf rfl]
  by_cases hitem : item.length = 32
  · rw [decide_eq_true (Script.scriptInt_size.mpr hitem), Script.acceptsFrom_hash160 rfl,
      (Script.pushes_pushSlice hhash).run rfl, Script.acceptsFrom_equalVerify rfl,
      (Script.pushes_pushSlice hclaim).run rfl, Script.acceptsFrom_opElse,
      Script.acceptsFrom_skip (by decide) rfl (by decide), hnumber.skip rfl,
      Script.acceptsFrom_skip (by decide) rfl (by decide),
      Script.acceptsFrom_skip (by decide) rfl (by decide),
      (Script.pushes_pushSlice hrefund).skip rfl, Script.acceptsFrom_opEndIf, Bool.and_eq_true,
      Script.acceptsFrom_checkSig, decide_eq_true_iff]
    constructor
    · rintro ⟨hpreimage, signature, rfl, hvalid⟩
      exact ⟨item, signature, rfl, .inl ⟨hitem, hpreimage.symm, hvalid⟩⟩
    · rintro ⟨item', signature, hstack, ⟨-, hclaims⟩ | ⟨hne, -⟩⟩
      · obtain ⟨rfl, rfl⟩ := List.cons.inj hstack
        exact ⟨hclaims.1.symm, signature, rfl, hclaims.2⟩
      · obtain ⟨rfl, -⟩ := List.cons.inj hstack
        exact absurd hitem hne
  · rw [decide_eq_false fun h => hitem (Script.scriptInt_size.mp h),
      Script.acceptsFrom_skip (by decide) rfl (by decide),
      (Script.pushes_pushSlice hhash).skip rfl,
      Script.acceptsFrom_skip (by decide) rfl (by decide),
      (Script.pushes_pushSlice hclaim).skip rfl, Script.acceptsFrom_opElse,
      Script.acceptsFrom_drop rfl, hnumber.run rfl, Script.acceptsFrom_cltv rfl lockTime.toNat_lt,
      Script.acceptsFrom_drop rfl, (Script.pushes_pushSlice hrefund).run rfl,
      Script.acceptsFrom_opEndIf, Bool.and_eq_true, Script.acceptsFrom_checkSig]
    constructor
    · rintro ⟨hlock, signature, rfl, hvalid⟩
      exact ⟨item, signature, rfl, .inr ⟨hitem, hlock, hvalid⟩⟩
    · rintro ⟨item', signature, hstack, ⟨hlength, -⟩ | ⟨-, hrefunds⟩⟩
      · obtain ⟨rfl, -⟩ := List.cons.inj hstack
        exact absurd hlength hitem
      · obtain ⟨-, rfl⟩ := List.cons.inj hstack
        exact ⟨hrefunds.1, signature, rfl, hrefunds.2⟩

/-! ## Leaves -/

def claimLeafLayout (hash claimKey : Bytes) : Bytes :=
  opHash160 :: (Script.pushSlice [] hash ++ opEqualVerify :: (Script.pushSlice [] claimKey ++
    [opCheckSig]))

def refundLeafLayout (refundKey number : Bytes) : Bytes :=
  Script.pushSlice [] refundKey ++ opCheckSigVerify :: (number ++ [opCltv])

theorem accepts_claimLeafLayout {hash claimKey : Bytes}
    (hhash : hash.length ≤ Script.maxElementSize)
    (hclaim : claimKey.length ≤ Script.maxElementSize) :
    accepts rules (claimLeafLayout hash claimKey) stack = true ↔
      ClaimLeafSpends rules hash claimKey stack := by
  unfold accepts claimLeafLayout ClaimLeafSpends
  rcases stack with _ | ⟨item, stack⟩
  · rw [Script.acceptsFrom_underflow rfl (by simp)]
    simp
  rw [Script.acceptsFrom_hashLock hhash, (Script.pushes_pushSlice hclaim).run rfl, Bool.and_eq_true,
    decide_eq_true_iff, Script.acceptsFrom_checkSig]
  constructor
  · rintro ⟨hpreimage, signature, rfl, hvalid⟩
    exact ⟨item, signature, rfl, hpreimage, hvalid⟩
  · rintro ⟨item', signature, hstack, hpreimage, hvalid⟩
    obtain ⟨rfl, rfl⟩ := List.cons.inj hstack
    exact ⟨hpreimage, signature, rfl, hvalid⟩

theorem accepts_sizedClaimLeafLayout {size hash claimKey : Bytes}
    (hsize : Pushes size (scriptInt (32 : ℕ))) (hhash : hash.length ≤ Script.maxElementSize)
    (hclaim : claimKey.length ≤ Script.maxElementSize) :
    accepts rules (opSize :: (size ++ opEqualVerify :: claimLeafLayout hash claimKey)) stack =
        true ↔
      SizedClaimLeafSpends rules hash claimKey stack := by
  rcases stack with _ | ⟨item, stack⟩
  · rw [accepts, Script.acceptsFrom_underflow rfl (by simp), SizedClaimLeafSpends]
    simp
  have hleaf : accepts rules (claimLeafLayout hash claimKey) (item :: stack) = true ↔
      ClaimLeafSpends rules hash claimKey (item :: stack) := accepts_claimLeafLayout hhash hclaim
  rw [accepts] at hleaf ⊢
  rw [Script.acceptsFrom_sizeLock hsize, Bool.and_eq_true, decide_eq_true_iff, hleaf]
  constructor
  · rintro ⟨hlength, item', signature, hstack, hclaims⟩
    obtain ⟨rfl, -⟩ := List.cons.inj hstack
    exact ⟨item, signature, hstack, hlength, hclaims⟩
  · rintro ⟨item', signature, hstack, hlength, hclaims⟩
    obtain ⟨rfl, -⟩ := List.cons.inj hstack
    exact ⟨hlength, item, signature, hstack, hclaims⟩

/-- What `OP_CLTV` leaves is the result, so a lock time of zero would not do. -/
theorem accepts_refundLeafLayout {refundKey number : Bytes}
    (hrefund : refundKey.length ≤ Script.maxElementSize)
    (hnumber : Pushes number (scriptInt lockTime.toNat)) (hpos : 0 < lockTime.toNat) :
    accepts rules (refundLeafLayout refundKey number) stack = true ↔
      RefundLeafSpends rules refundKey lockTime stack := by
  unfold accepts refundLeafLayout RefundLeafSpends
  rw [(Script.pushes_pushSlice hrefund).run rfl]
  rcases stack with _ | ⟨signature, stack⟩
  · rw [Script.acceptsFrom_checkSigVerify_underflow rfl]
    simp
  have htrue : Script.castToBool (scriptInt lockTime.toNat) = true :=
    Script.castToBool_scriptInt hpos (Nat.lt_trans lockTime.toNat_lt (by decide))
  rw [Script.acceptsFrom_checkSigVerify rfl, hnumber.run rfl,
    Script.acceptsFrom_cltv rfl lockTime.toNat_lt, Bool.and_eq_true, Bool.and_eq_true,
    Script.acceptsFrom_nil]
  constructor
  · rintro ⟨hvalid, hlock, item, hstack, -⟩
    obtain ⟨-, rfl⟩ := List.cons.inj hstack
    exact ⟨signature, rfl, hlock, hvalid⟩
  · rintro ⟨signature', hstack, hlock, hvalid⟩
    obtain ⟨rfl, rfl⟩ := List.cons.inj hstack
    exact ⟨hvalid, hlock, _, rfl, rfl, htrue⟩

/-! ## Builders -/

structure SwapParams where
  preimageHash : FixedBytes 20
  claimPubkey : PublicKey
  refundPubkey : PublicKey
  claimKey : XOnlyPublicKey
  refundKey : XOnlyPublicKey
  lockTime : UInt32
  deriving DecidableEq, Repr

/-- What the builders of one chain make of the same parameters. -/
structure SwapScripts where
  swapScript : Bytes
  reverseScript : Bytes
  swapTree : Tree
  reverseTree : Tree
  deriving DecidableEq, Repr

def Bitcoin.scripts (p : SwapParams) : SwapScripts where
  swapScript := swapScript p.preimageHash p.claimPubkey p.refundPubkey p.lockTime
  reverseScript := reverseScript p.preimageHash p.claimPubkey p.refundPubkey p.lockTime
  swapTree := swapTree p.preimageHash p.claimKey p.refundKey p.lockTime
  reverseTree := reverseTree p.preimageHash p.claimKey p.refundKey p.lockTime

def Elements.scripts (sha256 : Bytes → FixedBytes 32) (p : SwapParams)
    (claimCovenantParams : Option ClaimCovenantParams) : SwapScripts where
  swapScript := swapScript p.preimageHash p.claimPubkey p.refundPubkey p.lockTime
  reverseScript := reverseScript p.preimageHash p.claimPubkey p.refundPubkey p.lockTime
  swapTree := swapTree p.preimageHash p.claimKey p.refundKey p.lockTime
  reverseTree :=
    reverseTree sha256 p.preimageHash p.claimKey p.refundKey p.lockTime claimCovenantParams

/-- `size` and `leafSize` are pushes of 32, and `number` and `leafNumber` of the lock time. -/
def SwapParams.layout (p : SwapParams) (version : UInt8)
    (size number leafSize leafNumber : Bytes) (covenantClaimLeaf : Option Tapleaf) :
    SwapScripts where
  swapScript := swapLayout p.preimageHash.1 p.claimPubkey.1 p.refundPubkey.1 number
  reverseScript := reverseLayout size p.preimageHash.1 p.claimPubkey.1 p.refundPubkey.1 number
  swapTree :=
    { claimLeaf := ⟨version, claimLeafLayout p.preimageHash.1 p.claimKey.1⟩
      refundLeaf := ⟨version, refundLeafLayout p.refundKey.1 leafNumber⟩ }
  reverseTree :=
    { claimLeaf :=
        ⟨version, opSize :: (leafSize ++ opEqualVerify ::
          claimLeafLayout p.preimageHash.1 p.claimKey.1)⟩
      refundLeaf := ⟨version, refundLeafLayout p.refundKey.1 leafNumber⟩
      covenantClaimLeaf }

theorem Bitcoin.scripts_eq (p : SwapParams) :
    scripts p = p.layout tapscriptVersion (Script.pushSlice [] (scriptInt (32 : ℕ)))
      (Script.pushSlice [] (scriptInt p.lockTime.toNat)) (Script.intPush (32 : ℕ))
      (Script.intPush p.lockTime.toNat) none := by
  simp only [scripts, SwapParams.layout, SwapScripts.mk.injEq]
  refine ⟨?_, ?_, ?_, ?_⟩ <;>
    simp [swapScript, reverseScript, swapTree, reverseTree, refundLeaf, pushInt, swapLayout,
      reverseLayout, claimLeafLayout, refundLeafLayout, Script.pushInt_eq, Builder.new,
      Builder.pushOpcode, Builder.pushData, Script.pushSlice]

theorem Elements.scripts_eq (sha256 : Bytes → FixedBytes 32) (p : SwapParams)
    (claimCovenantParams : Option ClaimCovenantParams) :
    scripts sha256 p claimCovenantParams = p.layout tapscriptVersion (Script.intPush (32 : ℕ))
      (Script.intPush p.lockTime.toNat) (Script.intPush (32 : ℕ))
      (Script.intPush p.lockTime.toNat)
      (claimCovenantParams.map (createCovenantClaimLeaf sha256 p.preimageHash)) := by
  simp only [scripts, SwapParams.layout, SwapScripts.mk.injEq]
  refine ⟨?_, ?_, ?_, ?_⟩ <;>
    simp [swapScript, reverseScript, swapTree, reverseTree, refundLeaf, preimageSize, swapLayout,
      reverseLayout, claimLeafLayout, refundLeafLayout, Script.pushInt_eq, Builder.new,
      Builder.pushOpcode, Builder.pushData, Script.pushSlice]

/-! ## Hash time locks -/

/-- What each script accepts. -/
structure HashTimeLocks (rules : Rules) (p : SwapParams) (scripts : SwapScripts)
    (stack : List Item) : Prop where
  swapScript : accepts rules scripts.swapScript stack = true ↔
    SwapScriptSpends rules p.preimageHash.1 p.claimPubkey.1 p.refundPubkey.1 p.lockTime stack
  reverseScript : accepts rules scripts.reverseScript stack = true ↔
    ReverseScriptSpends rules p.preimageHash.1 p.claimPubkey.1 p.refundPubkey.1 p.lockTime stack
  swapTreeClaim : accepts rules scripts.swapTree.claimLeaf.output stack = true ↔
    ClaimLeafSpends rules p.preimageHash.1 p.claimKey.1 stack
  swapTreeRefund : accepts rules scripts.swapTree.refundLeaf.output stack = true ↔
    RefundLeafSpends rules p.refundKey.1 p.lockTime stack
  reverseTreeClaim : accepts rules scripts.reverseTree.claimLeaf.output stack = true ↔
    SizedClaimLeafSpends rules p.preimageHash.1 p.claimKey.1 stack
  reverseTreeRefund : accepts rules scripts.reverseTree.refundLeaf.output stack = true ↔
    RefundLeafSpends rules p.refundKey.1 p.lockTime stack

theorem hashTimeLocks_layout {p : SwapParams} {version : UInt8}
    {size number leafSize leafNumber : Bytes} {covenantClaimLeaf : Option Tapleaf}
    (hlock : 1 ≤ p.lockTime)
    (hsize : Pushes size (scriptInt (32 : ℕ)))
    (hnumber : Pushes number (scriptInt p.lockTime.toNat))
    (hleafSize : Pushes leafSize (scriptInt (32 : ℕ)))
    (hleafNumber : Pushes leafNumber (scriptInt p.lockTime.toNat)) :
    HashTimeLocks rules p (p.layout version size number leafSize leafNumber covenantClaimLeaf)
      stack := by
  have hhash := length_le_maxElementSize p.preimageHash (by decide)
  have hclaim := length_le_maxElementSize p.claimPubkey (by decide)
  have hrefund := length_le_maxElementSize p.refundPubkey (by decide)
  have hclaimKey := length_le_maxElementSize p.claimKey (by decide)
  have hrefundKey := length_le_maxElementSize p.refundKey (by decide)
  have hpos : 0 < p.lockTime.toNat := UInt32.le_iff_toNat_le.mp hlock
  exact
    { swapScript := accepts_swapLayout hhash hclaim hrefund hnumber
      reverseScript := accepts_reverseLayout hsize hhash hclaim hrefund hnumber
      swapTreeClaim := accepts_claimLeafLayout hhash hclaimKey
      swapTreeRefund := accepts_refundLeafLayout hrefundKey hleafNumber hpos
      reverseTreeClaim := accepts_sizedClaimLeafLayout hleafSize hhash hclaimKey
      reverseTreeRefund := accepts_refundLeafLayout hrefundKey hleafNumber hpos }

/-- Two chains accept the same stacks. -/
structure SameAcceptance (rules : Rules) (a b : SwapScripts) (stack : List Item) : Prop where
  swapScript : accepts rules a.swapScript stack = accepts rules b.swapScript stack
  reverseScript : accepts rules a.reverseScript stack = accepts rules b.reverseScript stack
  swapTreeClaim : accepts rules a.swapTree.claimLeaf.output stack =
    accepts rules b.swapTree.claimLeaf.output stack
  swapTreeRefund : accepts rules a.swapTree.refundLeaf.output stack =
    accepts rules b.swapTree.refundLeaf.output stack
  reverseTreeClaim : accepts rules a.reverseTree.claimLeaf.output stack =
    accepts rules b.reverseTree.claimLeaf.output stack
  reverseTreeRefund : accepts rules a.reverseTree.refundLeaf.output stack =
    accepts rules b.reverseTree.refundLeaf.output stack

theorem HashTimeLocks.sameAcceptance {p : SwapParams} {a b : SwapScripts}
    (ha : HashTimeLocks rules p a stack) (hb : HashTimeLocks rules p b stack) :
    SameAcceptance rules a b stack where
  swapScript := Bool.eq_iff_iff.mpr (ha.swapScript.trans hb.swapScript.symm)
  reverseScript := Bool.eq_iff_iff.mpr (ha.reverseScript.trans hb.reverseScript.symm)
  swapTreeClaim := Bool.eq_iff_iff.mpr (ha.swapTreeClaim.trans hb.swapTreeClaim.symm)
  swapTreeRefund := Bool.eq_iff_iff.mpr (ha.swapTreeRefund.trans hb.swapTreeRefund.symm)
  reverseTreeClaim := Bool.eq_iff_iff.mpr (ha.reverseTreeClaim.trans hb.reverseTreeClaim.symm)
  reverseTreeRefund := Bool.eq_iff_iff.mpr (ha.reverseTreeRefund.trans hb.reverseTreeRefund.symm)

theorem Bitcoin.scripts_hashTimeLocks {p : SwapParams} (hlock : 1 ≤ p.lockTime) :
    HashTimeLocks rules p (scripts p) stack := by
  rw [scripts_eq]
  exact hashTimeLocks_layout hlock (Script.pushes_scriptInt 32) (Script.pushes_scriptInt _)
    (Script.pushes_intPush 32) (Script.pushes_intPush _)

theorem Elements.scripts_hashTimeLocks {p : SwapParams} (hlock : 1 ≤ p.lockTime)
    (sha256 : Bytes → FixedBytes 32) (claimCovenantParams : Option ClaimCovenantParams) :
    HashTimeLocks rules p (scripts sha256 p claimCovenantParams) stack := by
  rw [scripts_eq]
  exact hashTimeLocks_layout hlock (Script.pushes_intPush 32) (Script.pushes_intPush _)
    (Script.pushes_intPush 32) (Script.pushes_intPush _)

/-- The scripts of both chains are hash time locks, and the same ones. -/
theorem swapScripts_hashTimeLocks (rules : Rules) (p : SwapParams) (sha256 : Bytes → FixedBytes 32)
    (claimCovenantParams : Option Elements.ClaimCovenantParams) (hlock : 1 ≤ p.lockTime)
    (stack : List Item) :
    HashTimeLocks rules p (Bitcoin.scripts p) stack ∧
      HashTimeLocks rules p (Elements.scripts sha256 p claimCovenantParams) stack ∧
      SameAcceptance rules (Bitcoin.scripts p) (Elements.scripts sha256 p claimCovenantParams)
        stack :=
  have hbitcoin := Bitcoin.scripts_hashTimeLocks hlock
  have helements := Elements.scripts_hashTimeLocks hlock sha256 claimCovenantParams
  ⟨hbitcoin, helements, hbitcoin.sameAcceptance helements⟩

/-! ## A swap with a hash of first bytes -/

def exampleRules : Rules where
  hash160 item := (item ++ List.replicate 20 0).take 20
  checkSig signature _ := !signature.isEmpty
  lockTime := 100
  sequence := 0xfffffffd
  minimalIf := true
  nullFail := true
  other _ _ := none

def exampleSwap : SwapParams where
  preimageHash := repeated 20 7
  claimPubkey := repeated 33 2
  refundPubkey := repeated 33 3
  claimKey := repeated 32 4
  refundKey := repeated 32 5
  lockTime := 100

/-- A claim, and a refund with an empty item. -/
theorem swapScripts_hashTimeLocks_example :
    accepts exampleRules (Bitcoin.scripts exampleSwap).reverseScript
        [List.replicate 32 7, [1]] = true ∧
      accepts exampleRules (Elements.scripts (fun _ => repeated 32 0) exampleSwap
        none).swapScript [[], [1]] = true :=
  have hlocks stack := swapScripts_hashTimeLocks exampleRules exampleSwap
    (fun _ => repeated 32 0) none (by decide) stack
  ⟨(hlocks _).1.reverseScript.mpr
      ⟨_, _, rfl, .inl ⟨by decide, (by decide : _ = _), (by decide : _ = _)⟩⟩,
    (hlocks _).2.1.swapScript.mpr
      ⟨_, _, rfl, .inr ⟨by decide, (by decide : _ = _), (by decide : _ = _)⟩⟩⟩

/-- An item of 32 bytes that is not a preimage selects the branch of the claim, and a refund with it
is refused. -/
theorem reverseScript_sizedItem_refused :
    ¬∀ (rules : Rules) (p : SwapParams) (stack : List Item), 1 ≤ p.lockTime →
      (accepts rules (Bitcoin.scripts p).reverseScript stack = true ↔
        ∃ item signature, stack = [item, signature] ∧
          (item.length = 32 ∧ Claims rules p.preimageHash.1 p.claimPubkey.1 item signature ∨
            rules.hash160 item ≠ p.preimageHash.1 ∧
              Refunds rules p.lockTime p.refundPubkey.1 signature)) := by
  intro hclaim
  have haccepts := (hclaim exampleRules exampleSwap [List.replicate 32 0, [1]] (by decide)).mpr
    ⟨_, _, rfl, .inr ⟨by decide, by decide, by decide⟩⟩
  have hlocks : HashTimeLocks exampleRules exampleSwap (Bitcoin.scripts exampleSwap)
      [List.replicate 32 0, [1]] := Bitcoin.scripts_hashTimeLocks (by decide)
  obtain ⟨item, signature, hstack, ⟨-, hclaims⟩ | ⟨hlength, -⟩⟩ := hlocks.reverseScript.mp haccepts
  · obtain ⟨rfl, -⟩ := List.cons.inj hstack
    exact absurd hclaims.1 (by decide)
  · obtain ⟨rfl, -⟩ := List.cons.inj hstack
    exact hlength rfl

end Boltz.Core
