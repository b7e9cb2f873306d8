import DeployWatch.Hash.Sha256
import Mathlib.Data.Set.Function

/-!
# Digests of texts

* `CollisionFree`: a set of messages no two of which have one digest;
* `message_injective`, `hexText_injective`: nothing is lost before and after the digest;
* **`hex_eq_iff`**: texts whose messages are free of collisions are told apart by their digests.
-/

namespace DeployWatch.Sha256

/-- The message that is digested for a text. -/
def message (s : String) : List UInt8 := s.toUTF8.toList

/-- No two of the messages have one digest. Of all messages together that cannot be said. -/
def CollisionFree (messages : Set (List UInt8)) : Prop := Set.InjOn digest messages

/-! ## Before the digest -/

theorem toList_loop (bytes : ByteArray) (i : Nat) (read : List UInt8) :
    ByteArray.toList.loop bytes i read = read.reverse ++ bytes.data.toList.drop i := by
  induction i, read using ByteArray.toList.loop.induct bytes with
  | case1 i read hlt ih =>
    have hi : i < bytes.data.toList.length := hlt
    have hget : bytes.get! i = bytes.data.toList[i] := getElem!_pos bytes.data i hlt
    rw [ByteArray.toList.loop, if_pos hlt, ih, hget, List.drop_eq_getElem_cons hi, List.reverse_cons,
      List.append_assoc, List.singleton_append]
  | case2 i read hge =>
    have hi : bytes.data.toList.length ≤ i := Nat.not_lt.mp hge
    rw [ByteArray.toList.loop, if_neg hge, List.drop_eq_nil_of_le hi, List.append_nil]

theorem message_injective : Function.Injective message := by
  intro s t h
  have hbytes : ∀ bytes : ByteArray, bytes.toList = bytes.data.toList := fun bytes =>
    toList_loop bytes 0 []
  rw [message, message, hbytes, hbytes, Array.toList_inj] at h
  exact String.toByteArray_inj.mp (ByteArray.ext h)

/-! ## After the digest -/

theorem digitChar_inj {m n : Nat} (hm : m < 16) (hn : n < 16) (h : m.digitChar = n.digitChar) :
    m = n := by
  have hall : ∀ i j : Fin 16, Nat.digitChar i = Nat.digitChar j → i = j := by decide
  exact Fin.mk.inj (hall ⟨m, hm⟩ ⟨n, hn⟩ h)

theorem hexText_injective : Function.Injective hexText := by
  intro a b h
  have hdigits := String.ofList_injective h
  clear h
  induction a generalizing b with
  | nil =>
    cases b with
    | nil => rfl
    | cons y b => cases hdigits
  | cons x a ih =>
    cases b with
    | nil => cases hdigits
    | cons y b =>
      obtain ⟨hhigh, hrest⟩ := List.cons.inj hdigits
      obtain ⟨hlow, hrest⟩ := List.cons.inj hrest
      have hx := x.toNat_lt
      have hy := y.toNat_lt
      have hhigh := digitChar_inj (by omega) (by omega) hhigh
      have hlow := digitChar_inj (by omega) (by omega) hlow
      rw [ih hrest, UInt8.toNat_inj.mp (by omega : x.toNat = y.toNat)]

/-- **Digests tell texts apart** whose messages are free of collisions. -/
theorem hex_eq_iff {messages : Set (List UInt8)} (hfree : CollisionFree messages) {s t : String}
    (hs : message s ∈ messages) (ht : message t ∈ messages) : hex s = hex t ↔ s = t := by
  refine ⟨fun h => ?_, congrArg hex⟩
  have hdigest : digest (message s) = digest (message t) := hexText_injective h
  exact message_injective (hfree hs ht hdigest)

end DeployWatch.Sha256
