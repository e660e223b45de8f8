/-! # Fingerprints of byte strings

A 64-bit digest: every byte is mixed into the state, which is then multiplied
by an odd prime. Texts are seeded by the digest of their bytes. -/

namespace Dilemma

def Fingerprint.absorb (state : UInt64) (byte : UInt8) : UInt64 :=
  (state ^^^ byte.toUInt64) * 0x100000001b3

def fingerprint (bytes : List UInt8) : UInt64 :=
  bytes.foldl Fingerprint.absorb 0xcbf29ce484222325

example : fingerprint "a".toUTF8.toList = 0xaf63dc4c8601ec8c := by decide +kernel

end Dilemma
