import Mooon.Sys.MemPool

/-! What `CRawMemPool::create` allocates for every argument. The size of a bucket is summed in 16
bits, the products are 32 bits wide, and no bucket is taken for one bucket in some places only. -/
namespace Mooon.Sys.MemLayout

/-- Places are counted from the bottom of the stack, `stackRoom` in pointers, the rest in bytes. -/
structure Layout where
  bucketSize : Nat
  bucketNumber : Nat
  stackRoom : Nat
  area : Nat
  stackTop : Nat
  stackTopIndex : Nat
  availableNumber : Nat
  bucketStack : Nat → Nat
  bitmapRoom : Nat

def create (bucketSize : UInt16) (bucketNumber : UInt32) (guardSize : UInt8) : Layout :=
  let size := ((if 0 < bucketSize.toNat then bucketSize.toNat else 1) + guardSize.toNat) % 65536
  let number := bucketNumber.toNat
  { bucketSize := size
    bucketNumber := if 0 < number then number else 1
    stackRoom := number
    area := size*number % 4294967296
    stackTop := size*((number + 4294967295) % 4294967296) % 4294967296
    stackTopIndex := number
    availableNumber := number
    bucketStack := fun i => size*i % 4294967296
    bitmapRoom := (number + 8) % 4294967296 / 8 }

def getPoolSize (layout : Layout) : Nat := layout.bucketNumber
def getAvailableNumber (layout : Layout) : Nat := layout.availableNumber

/-- Buckets of this size, apart from each other and inside of what was allocated. The loop of
`create` writes `bucketNumber` pointers. -/
structure Sound (size : Nat) (layout : Layout) : Prop where
  inside : ∀ i < layout.stackTopIndex, layout.bucketStack i + size ≤ layout.area
  apart : ∀ i j, i < j → j < layout.stackTopIndex →
    layout.bucketStack i + size ≤ layout.bucketStack j ∨ layout.bucketStack j + size ≤ layout.bucketStack i
  stack : layout.bucketNumber ≤ layout.stackRoom
  bitmap : layout.bucketNumber ≤ 8*layout.bitmapRoom
  counted : getPoolSize layout = getAvailableNumber layout ∧ getAvailableNumber layout = layout.stackTopIndex

theorem create_bucketSize (bucketSize : UInt16) (bucketNumber : UInt32) (guardSize : UInt8) :
    (create bucketSize bucketNumber guardSize).bucketSize =
      (max bucketSize.toNat 1 + guardSize.toNat) % 65536 := by
  simp only [create]
  split_ifs <;> omega

variable {size : Nat} {layout : Layout}

/-- Each bucket, and the end of the area, is a bucket's size behind the first one. -/
theorem Sound.wide (sound : Sound size layout) (pos : 0 < size) (first : layout.bucketStack 0 = 0)
    {i : Nat} (later : 0 < i)
    (inside : i ≤ layout.stackTopIndex) : size ≤ if i < layout.stackTopIndex then
      layout.bucketStack i else layout.area := by
  split_ifs with before
  · have apart := sound.apart 0 i later before
    omega
  · have whole := sound.inside 0 (by omega)
    omega

theorem product_fits {number : Nat} (pos : 0 < size) (small : size < 65536)
    (wide : ∀ i, 0 < i → i ≤ number → size ≤ size*i % 4294967296) : size*number < 4294967296 := by
  by_contra large
  -- the first bucket behind the end of the products would lie in the first bucket of all
  have below := Nat.mul_div_le 4294967295 size
  have above := Nat.lt_mul_div_succ 4294967295 pos
  have reached : 4294967295/size < number := Nat.lt_of_mul_lt_mul_left (a := size) (by omega)
  have lapped := wide _ (Nat.succ_pos _) reached
  rw [Nat.succ_eq_add_one,Nat.mul_add] at lapped
  rw [Nat.mul_add] at above
  omega

theorem layout_iff (bucketSize : UInt16) (bucketNumber : UInt32) (guardSize : UInt8) :
    Sound (max bucketSize.toNat 1 + guardSize.toNat) (create bucketSize bucketNumber guardSize) ↔
      0 < bucketNumber.toNat ∧ bucketNumber.toNat + 8 < 4294967296 ∧
        max bucketSize.toNat 1 + guardSize.toNat < 65536 ∧
        (max bucketSize.toNat 1 + guardSize.toNat)*bucketNumber.toNat < 4294967296 := by
  have number := bucketNumber.toNat_lt
  have sizes := create_bucketSize bucketSize bucketNumber guardSize
  have pos : 0 < max bucketSize.toNat 1 + guardSize.toNat := by omega
  generalize max bucketSize.toNat 1 + guardSize.toNat = size at *
  have place (i : Nat) : (create bucketSize bucketNumber guardSize).bucketStack i =
      size%65536*i % 4294967296 := by
    rw [← sizes]
    rfl
  have area : (create bucketSize bucketNumber guardSize).area =
      size%65536*bucketNumber.toNat % 4294967296 := by
    rw [← sizes]
    rfl
  constructor
  · intro sound
    have some : 0 < bucketNumber.toNat := by
      have stack := sound.stack
      simp only [create] at stack
      split_ifs at stack with some <;> omega
    have mapped := sound.bitmap
    simp only [create,if_pos some] at mapped
    have wide (i : Nat) (later : 0 < i) (inside : i ≤ bucketNumber.toNat) :
        size ≤ size%65536*i % 4294967296 := by
      have wide := sound.wide pos (by rw [place]; rfl) later inside
      rw [place,area] at wide
      split_ifs at wide with before
      · exact wide
      · rwa [Nat.le_antisymm inside (Nat.le_of_not_lt before)]
    have small : size < 65536 := by
      have first := wide 1 Nat.one_pos some
      omega
    rw [Nat.mod_eq_of_lt small] at wide
    exact ⟨some,by omega,small,product_fits pos small wide⟩
  · rintro ⟨some,mapped,small,fits⟩
    have exact_place (i : Nat) (inside : i ≤ bucketNumber.toNat) : size%65536*i % 4294967296 = size*i := by
      rw [Nat.mod_eq_of_lt small]
      exact Nat.mod_eq_of_lt (Nat.lt_of_le_of_lt (Nat.mul_le_mul_left size inside) fits)
    have next (i j : Nat) (later : i < j) : size*i + size ≤ size*j := Nat.mul_le_mul_left size later
    constructor
    · intro i inside
      rw [place,area,exact_place i (Nat.le_of_lt inside),exact_place _ (Nat.le_refl _)]
      exact next i _ inside
    · intro i j later inside
      rw [place,place,exact_place i (Nat.le_of_lt (Nat.lt_trans later inside)),
        exact_place j (Nat.le_of_lt inside)]
      exact .inl (next i j later)
    · simp [create,some]
    · simp only [create,if_pos some]
      omega
    · simp [create,getPoolSize,getAvailableNumber,some]

/-- A pool of no buckets calls itself a pool of one. -/
theorem create_none : getPoolSize (create 8 0 1) = 1 ∧ getAvailableNumber (create 8 0 1) = 0 ∧
    (create 8 0 1).stackRoom = 0 := ⟨rfl,rfl,rfl⟩

end Mooon.Sys.MemLayout
