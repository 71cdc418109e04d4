import MindLeak.Ackplane.Rotation

/-! What registering and retiring do to the registry: a key's record never changes. -/

namespace MindLeak.Ackplane

open Option Table

def SigningKeyRow.retired (row : SigningKeyRow) (retiredAt : Int) : SigningKeyRow :=
  { row with lifecycle := { row.lifecycle with retiredAt := some retiredAt } }

namespace SigningKeys
variable {keys after : SigningKeys} {record : SigningKeyRecord} {row : SigningKeyRow}

theorem find?_retire (keys : SigningKeys) (signingKeyId : String) (retiredAt : Int) (id : String) :
    (keys.retire signingKeyId retiredAt).find? id =
      (keys.find? id).map fun row => if id = signingKeyId then row.retired retiredAt else row := by
  unfold retire
  rw [find?_update]
  cases found : keys.find? id with
  | none => rfl
  | some row =>
    have named : row.lifecycle.record.signingKeyId = id := (mem_of_find? found).2
    simp only [map_some, Option.some.injEq, decide_eq_true_eq, named]
    rfl

theorem find?_register (registered : keys.register record = some after) (id : String) :
    after.find? id = if record.signingKeyId = id then some ((keys.find? id).getD ⟨⟨record, none, none⟩, none⟩)
      else keys.find? id := by
  unfold register at registered
  split at registered
  next held =>
    cases registered
    obtain ⟨row, found⟩ := isSome_iff_exists.mp held
    split
    next same => rw [← same, found, getD_some]
    next => rfl
  next =>
    obtain ⟨_, registered⟩ := else_of_ne registered (by simp)
    cases registered
    exact find?_insertOrIgnore ..

theorem mem_register (registered : keys.register record = some after) (member : row ∈ after.rows) :
    row ∈ keys.rows ∨ row = ⟨⟨record, none, none⟩, none⟩ := by
  unfold register at registered
  split at registered
  next =>
    cases registered
    exact .inl member
  next =>
    obtain ⟨_, registered⟩ := else_of_ne registered (by simp)
    cases registered
    exact mem_insertOrIgnore member

theorem find?_succeed {rotation : KeyRotation} {now : Int} (succeeded : keys.succeed rotation now = some after) (id : String) :
    after.find? id = let retired := (keys.find? id).map fun row =>
        if id = rotation.currentKeyId then row.retired (rotation.retiredAt now) else row
      if rotation.successorKeyId = id then some (retired.getD ⟨⟨rotation.successor now, none, none⟩, none⟩) else retired := by
  rw [find?_register succeeded, find?_retire]
  rfl

theorem succeed_keeps {rotation : KeyRotation} {now : Int} (succeeded : keys.succeed rotation now = some after) {id : String}
    (found : keys.find? id = some row) : ∃ later, after.find? id = some later ∧
      later.lifecycle.record = row.lifecycle.record := by
  rw [find?_succeed succeeded, found]
  refine ⟨_, ite_self _, ?_⟩
  split <;> rfl

end SigningKeys

theorem checkRotation_ok {platform : Platform} {rotation : KeyRotation} {now : Int} {current : SigningKeyLifecycle}
    {taken : Bool} (passed : checkRotation platform rotation now current taken = .ok ()) :
    current.InForce ⟨rotation.tenantId, rotation.repositoryId, rotation.nodeId⟩ now ∧ taken = false ∧
      verifyKeyRotationSignature platform current.record.publicKey rotation.currentKeySignature
        (keyRotationBytes rotation.statement) = true ∧
      verifyKeyRotationSignature platform rotation.successorPublicKey rotation.successorKeySignature
        (keyRotationBytes rotation.statement) = true := by
  unfold checkRotation at passed
  cases resolution : judge current (rotation.binding now) with
  | resolved record =>
    have worth : judge current (.of rotation.currentKeyId ⟨rotation.tenantId, rotation.repositoryId, rotation.nodeId⟩ now) =
      .resolved record := resolution
    obtain ⟨rfl, inForce⟩ := judge_resolved worth
    simp only [resolution, ne_eq, ite_not] at passed
    obtain ⟨_, passed⟩ := ite_then passed
    obtain ⟨free, passed⟩ := ite_else passed
    obtain ⟨signed, passed⟩ := ite_else passed
    rw [not_or, Bool.not_eq_false, Bool.not_eq_false] at signed
    exact ⟨inForce, Bool.eq_false_iff.mpr free, signed⟩
  | _ =>
    simp only [resolution] at passed
    cases passed

/-! Two enrolled nodes with real keys, for runs on fixed input. -/

def octets (n : Nat) : Bytes := (List.range 32).map fun (i : Nat) => UInt8.ofNat (n >>> (8 * (31 - i)))

def keyOfA : Bytes := octets 0x8a88e3dd7409f195fd52db2d3cba5d72ca6709bf1d94121bf3748801b40f6f5c

def keyOfB : Bytes := octets 0x8139770ea87d175f56a35466c34c7ecccb8d8a91b4ee37a25df60f5b8fc9b394

def keyOfADigest : Bytes := octets 0x34750f98bd59fcfc946da45aaabe933be154a4b5094e1c4abf42866505f3c97e

def nextKey : Bytes := octets 0xed4928c628d1c2c6eae90338905995612959273a5c63f93636c14614ac8737d1

def nextKeyDigest : Bytes := octets 0xb62e867fa2f33afe62d5d6b1642e1621d543307846b2a57b897e710919b76709

/-- The rotation of node-a's key to the next key, signed by both. -/
def signedByA : Bytes × Bytes :=
  (octets 0x3c3639096bde994b1e2710ed7b931e807a8a43346bda4f266901a2d84d47bad3 ++
      octets 0x806843813a801adb17758a9a9c79fee31c0055f103bdeb23d7f3c64df9efb607,
    octets 0xfae60b5db5ac6c881bb088a277b78281b88ff709609ae2cfc33b687de99641d4 ++
      octets 0x136a68282c92831f741798734a19728b75dade936422fd4fdf29d0fbb4f88b0f)

def signedByB : Bytes × Bytes :=
  (octets 0x3330d9e6766cab27afd4c5b29b6dd54f7816cefcaff434bfa6430471f219a644 ++
      octets 0xd2f7512d181539a9317149c6f3882957f3cc407d5ab3b405de03ad918d9eda0e,
    octets 0xb2b2e6538458e622b85c111e57af7c57cb5b099b17239262edda97ec8ff4474f ++
      octets 0x05567a663fb76ffec5cd04164365204b43b428f84abc8d1b747467b7710ff50a)

/-- And one of node-a's key again, to the same key under another id. -/
def signedLaterByA : Bytes × Bytes :=
  (octets 0x14d90c9aad991cbe2ceba1da2e97bf51e4dcb9617cc1af3f7d4aeca57d085649 ++
      octets 0xc513074830a27ba210404d1d1ef6d7a846fa14ff46ba43e5dff20730347b6504,
    octets 0x0ace857867634a0654cb29887d073d32dbc06bff85afc0dd7098c2241efdcfe8 ++
      octets 0x7df00ee045dcfc4b98c3b71fc1609af2a9c8a14cd1737b9e7e651f4b4ebd020f)

/-- node-a's proof over a nonce of nines, for the request below. -/
def provenByA : Bytes :=
  octets 0xfdb8196f47bd67eafcb2df9612ab378e6cfdaf8579104244063454496323fed1 ++
    octets 0xd3fa8c1402392b604a3ee7950320cbcbd509f3cc8684daaf39318d7d39174009

/-- Digests and signatures as they are of the bytes below; nothing else verifies. -/
def signingPlatform : EnrollmentPlatform where
  sha256 bytes := if bytes = nextKey then nextKeyDigest else if bytes = keyOfA then keyOfADigest else []
  ed25519 key _ signature := decide ((key, signature) ∈
    [(keyOfA, signedByA.1), (nextKey, signedByA.2), (keyOfB, signedByB.1), (nextKey, signedByB.2),
      (keyOfA, signedLaterByA.1), (nextKey, signedLaterByA.2), (keyOfA, provenByA)])
  debug text := text
  parseRfc3339 text :=
    if text = "1970-01-01T00:00:00Z" then some 0 else if text = "1970-01-02T00:00:00Z" then some (seconds 86400) else none

def registeredKey (signingKeyId nodeId : String) (publicKey : Bytes) (publicKeyFingerprint : String) : SigningKeyRow :=
  ⟨⟨⟨signingKeyId, "acme", "repo", nodeId, publicKey, publicKeyFingerprint, 0, none⟩, none, none⟩, none⟩

def nodeKeys : SigningKeys :=
  (Table.empty.insertOrIgnore (registeredKey "key:a" "node-a" keyOfA
      "ed25519:34750f98bd59fcfc946da45aaabe933be154a4b5094e1c4abf42866505f3c97e")).insertOrIgnore
    (registeredKey "key:b" "node-b" keyOfB "ed25519:6a3803d5f059902a1c6dafbc9ba4729212f7caac08634cc3ae76b27529f03827")

def rotationOf (nodeId currentKeyId successorKeyId : String) (signed : Bytes × Bytes) : KeyRotation where
  tenantId := "acme"
  repositoryId := "repo"
  nodeId := nodeId
  currentKeyId := currentKeyId
  successorKeyId := successorKeyId
  successorPublicKeyFingerprint := "ed25519:b62e867fa2f33afe62d5d6b1642e1621d543307846b2a57b897e710919b76709"
  successorPublicKey := nextKey
  currentKeySignature := signed.1
  successorKeySignature := signed.2
  requestedOverlapSeconds := 86400

def rotationOfA : KeyRotation := rotationOf "node-a" "key:a" "key:next" signedByA

def rotationOfB : KeyRotation := rotationOf "node-b" "key:b" "key:next" signedByB

end MindLeak.Ackplane
