import PaymentChannel.Template.Funding
import PaymentChannel.Template.Close
import PaymentChannel.Wire.Value

/-! How keys, transactions and what they consist of are written as values. -/

namespace PaymentChannel.Wire

/-- Byte strings as hexadecimal text. -/
@[reducible] def hexBytes (n : Nat) : Codec (Bytes n) := .texts Bytes.hex (Bytes.ofHex? n)

/-- Byte strings as lists of their bytes. -/
@[reducible] def listedBytes (n : Nat) : Codec (Bytes n) where
  encode bytes := encode bytes.toList
  decode? value := do Bytes.ofList? n (← decode? value)

/-- Byte strings of any length as hexadecimal text. -/
@[reducible] def hexString : Codec (List UInt8) :=
  .texts (Hex.encode ·) fun text => (Hex.decode text).toOption

instance : Codec Script := .wrap hexString Script.mk Script.bytes
instance : Codec PublicKey := .texts PublicKey.hex PublicKey.ofHex?
instance : Codec SecretKey := .texts SecretKey.hex SecretKey.ofHex?
instance : Codec Signature := .texts Signature.hex Signature.ofHex?
instance : Codec Txid := .texts Txid.text Txid.ofText?
instance : Codec OutPoint := .texts OutPoint.text OutPoint.ofText?
instance : Codec Prevout := .wrap (hexBytes 32) Prevout.mk Prevout.bytes
instance : Codec RevLock := .wrap (hexBytes 32) RevLock.mk RevLock.bytes

instance : Codec TxIn where
  encode input := .record [
    ("previous_output", encode input.previousOutput),
    ("script_sig", encode input.scriptSig),
    ("sequence", encode input.sequence),
    ("witness", .list (input.witness.map hexString.encode))]
  decode? value := do
    let [output, script, sequence, witness] ←
        value.members? ["previous_output", "script_sig", "sequence", "witness"]
      | none
    return {
      previousOutput := ← required output
      scriptSig := ← required script
      sequence := ← required sequence
      witness := ← (← (← witness).items?).mapM hexString.decode? }

instance : Codec TxOut where
  encode output := .record [
    ("value", encode output.value), ("script_pubkey", encode output.script)]
  decode? value := do
    let [worth, script] ← value.members? ["value", "script_pubkey"] | none
    return ⟨← required worth, ← required script⟩

instance : Codec Transaction where
  encode tx := .record [
    ("version", encode tx.version), ("lock_time", encode tx.lockTime),
    ("input", encode tx.inputs), ("output", encode tx.outputs)]
  decode? value := do
    let [version, lockTime, inputs, outputs] ←
        value.members? ["version", "lock_time", "input", "output"]
      | none
    return ⟨← required version, ← required lockTime, ← required inputs, ← required outputs⟩

instance : Codec TxKind := .names TxKind.all TxKind.label
instance : Codec CloseSource := .names CloseSource.all CloseSource.label

instance : Codec SignedTx where
  encode signed := .record [
    ("kind", encode signed.kind), ("tx", encode signed.tx), ("txid", encode signed.txid)]
  decode? value := do
    let [kind, tx, txid] ← value.members? ["kind", "tx", "txid"] | none
    return ⟨← required kind, ← required tx, ← required txid⟩

instance : Codec FundingUtxo where
  encode utxo := .record [
    ("outpoint", encode utxo.outpoint), ("value", encode utxo.value),
    ("pubkey", encode utxo.key)]
  decode? value := do
    let [outpoint, worth, key] ← value.members? ["outpoint", "value", "pubkey"] | none
    return ⟨← required outpoint, ← required worth, ← required key⟩

instance : Codec ClosingKeys where
  encode keys := .record [
    ("merch_pk", encode keys.merchant), ("cust_pk", encode keys.customer),
    ("merch_payout_pk", encode keys.payout), ("merch_dispute_pk", encode keys.dispute),
    ("cust_close_pk", encode keys.close)]
  decode? value := do
    let [merchant, customer, payout, dispute, close] ← value.members?
        ["merch_pk", "cust_pk", "merch_payout_pk", "merch_dispute_pk", "cust_close_pk"]
      | none
    return {
      merchant := ← required merchant
      customer := ← required customer
      payout := ← required payout
      dispute := ← required dispute
      close := ← required close }

instance : Codec CloseBalances where
  encode balances := .record [
    ("cust", encode balances.customer), ("merch", encode balances.merchant)]
  decode? value := do
    let [customer, merchant] ← value.members? ["cust", "merch"] | none
    return ⟨← required customer, ← required merchant⟩

instance : Codec FeeSchedule where
  encode fees := .record [
    ("bal_min_cust", encode fees.customerReserve),
    ("bal_min_merch", encode fees.merchantReserve),
    ("val_cpfp", encode fees.anchorValue),
    ("fee_cc", encode fees.customerCloseFee),
    ("fee_mc", encode fees.merchantCloseFee),
    ("min_fee", encode fees.leastFee),
    ("max_fee", encode fees.greatestFee)]
  decode? value := do
    let [customerReserve, merchantReserve, anchor, customerFee, merchantFee, least, greatest] ←
        value.members? ["bal_min_cust", "bal_min_merch", "val_cpfp", "fee_cc", "fee_mc",
          "min_fee", "max_fee"]
      | none
    return {
      customerReserve := ← required customerReserve
      merchantReserve := ← required merchantReserve
      anchorValue := ← required anchor
      customerCloseFee := ← required customerFee
      merchantCloseFee := ← required merchantFee
      leastFee := ← required least
      greatestFee := ← required greatest }

end PaymentChannel.Wire
