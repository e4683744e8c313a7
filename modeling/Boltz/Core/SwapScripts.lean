import Boltz.Core.ConstructTx
import Boltz.Core.Introspection

/-!
# Scripts of swaps (`boltz-core/src/bitcoin/scripts`, `boltz-core/src/elements/scripts`)

Public keys and hashes are their serialized bytes, and lock times their consensus encoding.
-/

namespace Boltz.Core

open Script (Builder opCheckSig opCheckSigVerify opCltv opDrop opElse opEndIf opEqual opEqualVerify
  opHash160 opIf opInspectOutputAsset opInspectOutputScriptPubkey opInspectOutputValue opSize)

abbrev PublicKey := FixedBytes 33

abbrev XOnlyPublicKey := FixedBytes 32

/-- Keys and hashes fit into a push. -/
theorem length_le_maxElementSize {n : ℕ} (bytes : FixedBytes n) (h : n ≤ Script.maxElementSize) :
    bytes.1.length ≤ Script.maxElementSize := by
  rw [bytes.2]
  exact h

namespace Bitcoin

def tapscriptVersion : UInt8 := 0xc0

/-- `write_scriptint` and a push, also of small numbers. -/
def pushInt (script : Builder) (data : ℤ) : Builder := script.pushData (Script.scriptInt data)

def swapScript (preimageHash : FixedBytes 20) (claimPubkey refundPubkey : PublicKey)
    (lockTime : UInt32) : Bytes :=
  let script := Builder.new
    |>.pushOpcode opHash160
    |>.pushData preimageHash.1
    |>.pushOpcode opEqual
    |>.pushOpcode opIf
    |>.pushData claimPubkey.1
    |>.pushOpcode opElse
  (pushInt script lockTime.toNat)
    |>.pushOpcode opCltv
    |>.pushOpcode opDrop
    |>.pushData refundPubkey.1
    |>.pushOpcode opEndIf
    |>.pushOpcode opCheckSig

def reverseScript (preimageHash : FixedBytes 20) (claimPubkey refundPubkey : PublicKey)
    (lockTime : UInt32) : Bytes :=
  let script := pushInt (Builder.new.pushOpcode opSize) 32
    |>.pushOpcode opEqual
    |>.pushOpcode opIf
    |>.pushOpcode opHash160
    |>.pushData preimageHash.1
    |>.pushOpcode opEqualVerify
    |>.pushData claimPubkey.1
    |>.pushOpcode opElse
    |>.pushOpcode opDrop
  (pushInt script lockTime.toNat)
    |>.pushOpcode opCltv
    |>.pushOpcode opDrop
    |>.pushData refundPubkey.1
    |>.pushOpcode opEndIf
    |>.pushOpcode opCheckSig

def refundLeaf (refundPubkey : XOnlyPublicKey) (lockTime : UInt32) : Tapleaf where
  version := tapscriptVersion
  output := Builder.new
    |>.pushData refundPubkey.1
    |>.pushOpcode opCheckSigVerify
    |>.pushInt lockTime.toNat
    |>.pushOpcode opCltv

def swapTree (preimageHash : FixedBytes 20) (claimPubkey refundPubkey : XOnlyPublicKey)
    (lockTime : UInt32) : Tree where
  claimLeaf :=
    { version := tapscriptVersion
      output := Builder.new
        |>.pushOpcode opHash160
        |>.pushData preimageHash.1
        |>.pushOpcode opEqualVerify
        |>.pushData claimPubkey.1
        |>.pushOpcode opCheckSig }
  refundLeaf := refundLeaf refundPubkey lockTime

def reverseTree (preimageHash : FixedBytes 20) (claimPubkey refundPubkey : XOnlyPublicKey)
    (lockTime : UInt32) : Tree where
  claimLeaf :=
    { version := tapscriptVersion
      output := Builder.new
        |>.pushOpcode opSize
        |>.pushInt 32
        |>.pushOpcode opEqualVerify
        |>.pushOpcode opHash160
        |>.pushData preimageHash.1
        |>.pushOpcode opEqualVerify
        |>.pushData claimPubkey.1
        |>.pushOpcode opCheckSig }
  refundLeaf := refundLeaf refundPubkey lockTime

end Bitcoin

namespace Elements

def tapscriptVersion : UInt8 := 0xc4

def preimageSize : ℕ := 32

def swapScript (preimageHash : FixedBytes 20) (claimPubkey refundPubkey : PublicKey)
    (lockTime : UInt32) : Bytes :=
  Builder.new
    |>.pushOpcode opHash160
    |>.pushData preimageHash.1
    |>.pushOpcode opEqual
    |>.pushOpcode opIf
    |>.pushData claimPubkey.1
    |>.pushOpcode opElse
    |>.pushInt lockTime.toNat
    |>.pushOpcode opCltv
    |>.pushOpcode opDrop
    |>.pushData refundPubkey.1
    |>.pushOpcode opEndIf
    |>.pushOpcode opCheckSig

def reverseScript (preimageHash : FixedBytes 20) (claimPubkey refundPubkey : PublicKey)
    (lockTime : UInt32) : Bytes :=
  Builder.new
    |>.pushOpcode opSize
    |>.pushInt 32
    |>.pushOpcode opEqual
    |>.pushOpcode opIf
    |>.pushOpcode opHash160
    |>.pushData preimageHash.1
    |>.pushOpcode opEqualVerify
    |>.pushData claimPubkey.1
    |>.pushOpcode opElse
    |>.pushOpcode opDrop
    |>.pushInt lockTime.toNat
    |>.pushOpcode opCltv
    |>.pushOpcode opDrop
    |>.pushData refundPubkey.1
    |>.pushOpcode opEndIf
    |>.pushOpcode opCheckSig

def refundLeaf (refundPubkey : XOnlyPublicKey) (lockTime : UInt32) : Tapleaf where
  version := tapscriptVersion
  output := Builder.new
    |>.pushData refundPubkey.1
    |>.pushOpcode opCheckSigVerify
    |>.pushInt lockTime.toNat
    |>.pushOpcode opCltv

def swapTree (preimageHash : FixedBytes 20) (claimPubkey refundPubkey : XOnlyPublicKey)
    (lockTime : UInt32) : Tree where
  claimLeaf :=
    { version := tapscriptVersion
      output := Builder.new
        |>.pushOpcode opHash160
        |>.pushData preimageHash.1
        |>.pushOpcode opEqualVerify
        |>.pushData claimPubkey.1
        |>.pushOpcode opCheckSig }
  refundLeaf := refundLeaf refundPubkey lockTime
  covenantClaimLeaf := none

/-! ## Covenants (`introspection.rs`) -/

/-- The payload of an address. -/
inductive Payload where
  | pubkeyHash (hash : FixedBytes 20)
  | scriptHash (hash : FixedBytes 20)
  | witnessProgram (version : Fin 17)
    (program : { bytes : Bytes // 2 ≤ bytes.length ∧ bytes.length ≤ 40 })
  deriving DecidableEq, Repr

def Payload.scriptPubkey : Payload → Bytes
  | .pubkeyHash hash => Script.pushSlice [0x76, opHash160] hash.1 ++ [opEqualVerify, opCheckSig]
  | .scriptHash hash => Script.pushSlice [opHash160] hash.1 ++ [opEqual]
  | .witnessProgram version program =>
    Script.pushSlice [if version.1 = 0 then 0 else UInt8.ofNat (version.1 + 0x50)] program.1

/-- `output` is an address, of which the script needs the payload. -/
structure ClaimCovenantParams where
  index : UInt32
  output : Payload
  assetId : FixedBytes 32
  expectedAmount : UInt64
  deriving DecidableEq, Repr

/-- `slice_segwit_script` -/
def sliceSegwitScript (script : Bytes) : Bytes :=
  if 2 ≤ script.length then script.drop 2 else script

section

variable (sha256 : Bytes → FixedBytes 32)

def scriptIntrospectionValue (output : Payload) : ℤ × Bytes :=
  let script := output.scriptPubkey
  match script.head? with
  | some val =>
    if val = 0x00 then (0, sliceSegwitScript script)
    else if val = 0x51 then (1, sliceSegwitScript script)
    else (-1, (sha256 script).1)
  | none => (-1, (sha256 script).1)

def createCovenantClaimLeaf (preimageHash : FixedBytes 20) (params : ClaimCovenantParams) :
    Tapleaf where
  version := tapscriptVersion
  output :=
    let (introValueVersion, introValueScript) := scriptIntrospectionValue sha256 params.output
    Builder.new
      |>.pushOpcode opSize
      |>.pushInt preimageSize
      |>.pushOpcode opEqualVerify
      |>.pushOpcode opHash160
      |>.pushData preimageHash.1
      |>.pushOpcode opEqualVerify
      |>.pushInt params.index.toNat
      |>.pushOpcode opInspectOutputScriptPubkey
      |>.pushInt introValueVersion
      |>.pushOpcode opEqualVerify
      |>.pushData introValueScript
      |>.pushOpcode opEqualVerify
      |>.pushInt params.index.toNat
      |>.pushOpcode opInspectOutputAsset
      |>.pushOpcode 0x51
      |>.pushOpcode opEqualVerify
      |>.pushData params.assetId.1
      |>.pushOpcode opEqualVerify
      |>.pushInt params.index.toNat
      |>.pushOpcode opInspectOutputValue
      |>.pushOpcode opDrop
      |>.pushData (Script.leBytes 8 params.expectedAmount.toNat)
      |>.pushOpcode opEqual

def reverseTree (preimageHash : FixedBytes 20) (claimPubkey refundPubkey : XOnlyPublicKey)
    (lockTime : UInt32) (claimCovenantParams : Option ClaimCovenantParams) : Tree where
  claimLeaf :=
    { version := tapscriptVersion
      output := Builder.new
        |>.pushOpcode opSize
        |>.pushInt preimageSize
        |>.pushOpcode opEqualVerify
        |>.pushOpcode opHash160
        |>.pushData preimageHash.1
        |>.pushOpcode opEqualVerify
        |>.pushData claimPubkey.1
        |>.pushOpcode opCheckSig }
  refundLeaf := refundLeaf refundPubkey lockTime
  covenantClaimLeaf := claimCovenantParams.map (createCovenantClaimLeaf sha256 preimageHash)

end

end Elements

end Boltz.Core
