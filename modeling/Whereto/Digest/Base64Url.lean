/-!
Base 64 with the alphabet for URLs and file names, without padding.
-/

namespace Whereto.Digest.Base64Url

def alphabet : Array Char :=
  "ABCDEFGHIJKLMNOPQRSTUVWXYZabcdefghijklmnopqrstuvwxyz0123456789-_".toList.toArray

/-- The digit for the six bits of `n` that start at bit `shift`. -/
def sextet (n : Nat) (shift : Nat) : Char := alphabet.getD ((n >>> shift) % 64) 'A'

def encode : List UInt8 → List Char
  | a :: b :: c :: rest =>
    let n := a.toNat * 65536 + b.toNat * 256 + c.toNat
    sextet n 18 :: sextet n 12 :: sextet n 6 :: sextet n 0 :: encode rest
  | [a, b] =>
    let n := a.toNat * 65536 + b.toNat * 256
    [sextet n 18, sextet n 12, sextet n 6]
  | [a] =>
    let n := a.toNat * 65536
    [sextet n 18, sextet n 12]
  | [] => []

end Whereto.Digest.Base64Url
