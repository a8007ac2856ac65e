import Witnessed.Text.Hex
import Witnessed.Text.Utf8

/-!
Values of a fixed number of bytes: digests, keys, signatures and key ids. Values of one kind
are ordered by their bytes, the first one first.
-/

namespace Witnessed

inductive Kind
  | hash
  | keyHash
  | publicKey
  | signature
  | privateKey
  | keyId
  deriving DecidableEq, Repr

/-- Size in bytes. -/
def Kind.size : Kind → Nat
  | .hash | .keyHash | .publicKey | .privateKey => 32
  | .signature => 64
  | .keyId => 4

def Kind.label : Kind → String
  | .hash => "hash"
  | .keyHash => "key hash"
  | .publicKey => "public key"
  | .signature => "signature"
  | .privateKey => "private key"
  | .keyId => "key id"

structure Octets (kind : Kind) where
  bytes : List UInt8
  length_bytes : bytes.length = kind.size
  deriving DecidableEq

/-- SHA-256 digest. -/
abbrev Hash := Octets .hash

/-- Digest of a public key; names a log or a witness. -/
abbrev KeyHash := Octets .keyHash

abbrev PublicKey := Octets .publicKey

abbrev Signature := Octets .signature

abbrev KeyId := Octets .keyId

namespace Octets

variable {kind : Kind}

/-- Takes exactly as many bytes as the kind has. -/
def ofBytes? (kind : Kind) (bytes : List UInt8) : Option (Octets kind) :=
  if h : bytes.length = kind.size then some ⟨bytes, h⟩ else none

/-- The first bytes of a sequence, filled up with zeros. -/
def take (kind : Kind) (bytes : List UInt8) : Octets kind :=
  ⟨bytes.take kind.size ++ List.replicate (kind.size - bytes.length) 0, by
    simp only [List.length_append, List.length_take, List.length_replicate]; omega⟩

def fill (kind : Kind) (byte : UInt8) : Octets kind :=
  ⟨List.replicate kind.size byte, List.length_replicate⟩

/-- Lowercase hexadecimal. -/
def hex (o : Octets kind) : String :=
  String.ofList (Hex.encode o.bytes)

instance : LT (Octets kind) := ⟨fun a b => a.bytes < b.bytes⟩

instance (a b : Octets kind) : Decidable (a < b) :=
  inferInstanceAs (Decidable (a.bytes < b.bytes))

theorem bytes_inj {a b : Octets kind} : a.bytes = b.bytes ↔ a = b := by
  cases a; cases b; simp

theorem lt_irrefl (a : Octets kind) : ¬a < a :=
  List.lt_irrefl a.bytes

theorem lt_trans {a b c : Octets kind} (h : a < b) (k : b < c) : a < c :=
  show a.bytes < c.bytes from List.lt_trans h k

theorem lt_of_not_lt_of_ne {a b : Octets kind} (h : ¬a < b) (ne : a ≠ b) : b < a := by
  have le : b.bytes ≤ a.bytes := List.not_lt.1 h
  refine Decidable.byContradiction fun g => ne (bytes_inj.1 ?_)
  exact List.le_antisymm (List.not_lt.1 g) le

end Octets

end Witnessed
