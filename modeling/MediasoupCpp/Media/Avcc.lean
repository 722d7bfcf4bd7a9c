import Mathlib.Algebra.BigOperators.Group.List.Basic
import MediasoupCpp.Lib.Bytes
import MediasoupCpp.Media.AnnexB

/-!
# NAL units behind their lengths

In a file the NAL units of a frame stand behind their lengths, which take four bytes, instead of
start codes.  The conversion reads the byte stream NAL unit by NAL unit.

Main result: `AnnexBReader.yields_units`.

Source: `common/media/h264/Avcc.cpp`.
-/

namespace MediasoupCpp

open List Bytes

/-! ### The conversion -/

variable (nalu : List UInt8)

def avccNalu : List UInt8 :=
  let nalLen := UInt32.ofNat nalu.length
  [(nalLen >>> 24 &&& 0xFF).toUInt8, (nalLen >>> 16 &&& 0xFF).toUInt8,
    (nalLen >>> 8 &&& 0xFF).toUInt8, (nalLen &&& 0xFF).toUInt8] ++ nalu

def annexBToAvccLoop : ℕ → List UInt8 → List UInt8
  | 0, _ => []
  | fuel + 1, reader =>
    match AnnexBReader.next reader with
    | (none, _) => []
    | (some nalu, reader) => avccNalu nalu ++ annexBToAvccLoop fuel reader

def annexBToAvcc (annexB : List UInt8) : List UInt8 :=
  if annexB = [] then [] else annexBToAvccLoop annexB.length annexB

variable {nalus : List (List UInt8)} {fuel : ℕ}

theorem annexBToAvccLoop_of_yields {data : List UInt8}
    (h : AnnexBReader.Yields data nalus) (hfuel : nalus.length ≤ fuel) :
    annexBToAvccLoop fuel data = nalus.flatMap avccNalu := by
  induction h generalizing fuel with
  | done h =>
    cases fuel with
    | zero => rfl
    | succ fuel =>
      rw [annexBToAvccLoop, h]
      rfl
  | more h _ ih =>
    obtain ⟨fuel, rfl⟩ : ∃ n, fuel = n + 1 :=
      Nat.exists_eq_add_one.mpr (Nat.lt_of_lt_of_le (Nat.succ_pos _) hfuel)
    rw [annexBToAvccLoop, h]
    dsimp only
    rw [ih (Nat.le_of_succ_le_succ hfuel), flatMap_cons]

theorem annexBToAvcc_of_yields {data : List UInt8}
    (h : AnnexBReader.Yields data nalus) : annexBToAvcc data = nalus.flatMap avccNalu := by
  have hloop := annexBToAvccLoop_of_yields h h.spec.2.2
  unfold annexBToAvcc
  split
  next hemp =>
    rw [hemp] at hloop
    exact hloop
  · exact hloop

theorem annexBToAvcc_annexB (units : List (Bool × Nalu)) :
    annexBToAvcc (annexB units) = units.flatMap fun u => avccNalu u.2.bytes := by
  have hyields : AnnexBReader.Yields (annexB units) (units.map fun u => u.2.bytes) := by
    induction units with
    | nil => exact .done rfl
    | cons unit units ih => exact .more (AnnexBReader.next_annexB unit.1 unit.2 units) ih
  rw [annexBToAvcc_of_yields hyields, flatMap_map]

/-! ### Reading a frame -/

def decodeAvccLoop : ℕ → List UInt8 → Option (List (List UInt8))
  | 0, frame => if frame = [] then some [] else none
  | fuel + 1, frame =>
    if frame = [] then some []
    else if frame.length < 4 then none
    else
      let nalLen := Bytes.ofBe (frame.take 4)
      let rest := frame.drop 4
      if rest.length < nalLen then none
      else (decodeAvccLoop fuel (rest.drop nalLen)).map (rest.take nalLen :: ·)

def decodeAvcc (frame : List UInt8) : Option (List (List UInt8)) :=
  decodeAvccLoop frame.length frame

def avccSize (nalus : List (List UInt8)) : ℕ := (nalus.map fun nalu => 4 + nalu.length).sum

@[simp] theorem avccSize_cons (nalus : List (List UInt8)) :
    avccSize (nalu :: nalus) = 4 + nalu.length + avccSize nalus :=
  sum_cons

theorem length_avccNalu : (avccNalu nalu).length = 4 + nalu.length := by
  rw [avccNalu, length_append]
  rfl

theorem length_flatMap_avccNalu (nalus : List (List UInt8)) :
    (nalus.flatMap avccNalu).length = avccSize nalus := by
  rw [length_flatMap, avccSize]
  exact congrArg List.sum (map_congr_left fun nalu _ => length_avccNalu nalu)

theorem length_of_decodeAvccLoop {frame : List UInt8}
    (h : decodeAvccLoop fuel frame = some nalus) : frame.length = avccSize nalus := by
  induction fuel generalizing frame nalus with
  | zero =>
    rw [decodeAvccLoop] at h
    split at h
    next hemp =>
      cases h
      rw [hemp]
      rfl
    · cases h
  | succ fuel ih =>
    rw [decodeAvccLoop] at h
    split at h
    next hemp =>
      cases h
      rw [hemp]
      rfl
    split at h
    · cases h
    rename_i hhead
    dsimp only at h
    split at h
    · cases h
    rename_i hrest
    obtain ⟨_, htail, rfl⟩ := Option.map_eq_some_iff.mp h
    have hlen := ih htail
    rw [length_drop, length_drop] at hlen
    rw [length_drop] at hrest
    rw [avccSize_cons, ← hlen, length_take, length_drop]
    omega

theorem length_of_decodeAvcc {frame : List UInt8}
    (h : decodeAvcc frame = some nalus) : frame.length = avccSize nalus :=
  length_of_decodeAvccLoop h

theorem toUInt8_and_255 (n : UInt32) : (n &&& 0xFF).toUInt8 = n.toUInt8 := by
  apply UInt8.toNat_inj.mp
  rw [UInt32.toNat_toUInt8, UInt32.toNat_toUInt8, UInt32.toNat_and]
  exact (congrArg (· % 256) (Nat.and_two_pow_sub_one_eq_mod n.toNat 8)).trans (Nat.mod_mod _ _)

theorem avccNalu_eq : avccNalu nalu = Bytes.toBe 4 (UInt32.ofNat nalu.length).toNat ++ nalu := by
  rw [avccNalu, ← be32_eq]
  simp only [toUInt8_and_255]

theorem decodeAvccLoop_flatMap
    (hfuel : nalus.length ≤ fuel) (hsize : ∀ nalu ∈ nalus, nalu.length < 4294967296) :
    decodeAvccLoop fuel (nalus.flatMap avccNalu) = some nalus := by
  induction nalus generalizing fuel with
  | nil => cases fuel <;> rfl
  | cons nalu nalus ih =>
    rw [forall_mem_cons] at hsize
    obtain ⟨fuel, rfl⟩ : ∃ n, fuel = n + 1 :=
      Nat.exists_eq_add_one.mpr (Nat.lt_of_lt_of_le (Nat.succ_pos _) hfuel)
    have hlen : (UInt32.ofNat nalu.length).toNat = nalu.length :=
      UInt32.toNat_ofNat_of_lt' hsize.1
    have hfrm : (nalu :: nalus).flatMap avccNalu =
        toBe 4 nalu.length ++ (nalu ++ nalus.flatMap avccNalu) := by
      rw [flatMap_cons, avccNalu_eq, hlen, append_assoc]
    have hhead : (toBe 4 nalu.length).length = 4 := length_toBe _ _
    have hread : ofBe (toBe 4 nalu.length) = nalu.length :=
      ofBe_toBe (by simpa using hsize.1)
    rw [hfrm, decodeAvccLoop, if_neg, if_neg]
    · dsimp only
      rw [take_left' hhead, drop_left' hhead, hread, take_left, drop_left,
        if_neg (by simp), ih (Nat.le_of_succ_le_succ hfuel) hsize.2, Option.map_some]
    · rw [length_append, hhead]
      omega
    intro hemp
    have hzero := congrArg List.length hemp
    rw [length_append, hhead, length_nil] at hzero
    omega

theorem length_le_avccSize (nalus : List (List UInt8)) : nalus.length ≤ avccSize nalus := by
  induction nalus with
  | nil => exact Nat.zero_le _
  | cons nalu nalus ih =>
    rw [avccSize_cons, length_cons]
    omega

theorem length_lt_of_avccSize {bound : ℕ}
    (h : avccSize nalus < bound) : ∀ nalu ∈ nalus, nalu.length < bound := by
  induction nalus with
  | nil => exact fun _ hnalu => (by cases hnalu)
  | cons nalu nalus ih =>
    rw [avccSize_cons] at h
    exact forall_mem_cons.mpr ⟨by omega, ih (by omega)⟩

theorem decodeAvcc_flatMap (h : avccSize nalus < 4294967296) :
    decodeAvcc (nalus.flatMap avccNalu) = some nalus := by
  refine decodeAvccLoop_flatMap ?_ (length_lt_of_avccSize h)
  rw [length_flatMap_avccNalu]
  exact length_le_avccSize nalus

/-! ### From the stream to the frame -/

theorem cleanNalu_replicate {n : ℕ} (hn : 0 < n) : CleanNalu (List.replicate n 0xFF) := by
  have hbyte : ∀ b ∈ List.replicate n (0xFF : UInt8), b ≠ 0 := by
    intro b hb
    rw [eq_of_mem_replicate hb]
    decide
  refine ⟨?_, fun h => hbyte 0 (h.subset (by simp)) rfl, fun h => hbyte 0 (h.subset (by simp)) rfl,
    fun h => hbyte 0 (mem_of_getLast? h) rfl⟩
  exact ne_nil_of_length_pos (by rwa [length_replicate])

theorem decodeAvcc_ne_of_length {nalu : List UInt8} (hlen : nalu.length = 4294967296) :
    decodeAvcc (avccNalu nalu) ≠ some [nalu] := by
  have hzero : (UInt32.ofNat nalu.length).toNat = 0 := by
    rw [hlen]
    rfl
  have hhead : (toBe 4 0).length = 4 := length_toBe 4 0
  have hread : ofBe (toBe 4 0) = 0 := ofBe_toBe (by decide)
  rw [decodeAvcc, length_avccNalu, avccNalu_eq, hzero, Nat.add_comm, decodeAvccLoop, if_neg, if_neg]
  · dsimp only
    rw [take_left' hhead, hread, if_neg (Nat.not_lt_zero _), take_zero]
    intro h
    obtain ⟨_, -, htail⟩ := Option.map_eq_some_iff.mp h
    have hnil : [] = nalu := (List.cons.inj htail).1
    rw [← hnil] at hlen
    cases hlen
  · rw [length_append, hhead]
    omega
  · intro hemp
    have hnil := (append_eq_nil_iff.mp hemp).2
    rw [hnil] at hlen
    cases hlen

/-- A NAL unit of 4 GiB gets the length zero. -/
theorem AnnexBReader.avcc_length_wraps :
    ∃ nalu, CleanNalu nalu ∧ nalu.length = 4294967296 ∧
      decodeAvcc (annexBToAvcc (stream [((false, []), nalu)])) ≠ some [nalu] := by
  have hcln : CleanNalu (List.replicate 4294967296 0xFF) := cleanNalu_replicate (by decide)
  generalize hnalu : List.replicate 4294967296 (0xFF : UInt8) = nalu at hcln
  have hlen : nalu.length = 4294967296 := by rw [← hnalu, length_replicate]
  have hyields := @yields_stream [] (by simp) [((false, []), nalu)] (by simpa using hcln)
  have hfrm : annexBToAvcc (stream [((false, []), nalu)]) = avccNalu nalu :=
    (annexBToAvcc_of_yields hyields).trans (by simp)
  refine ⟨nalu, hcln, hlen, ?_⟩
  rw [hfrm]
  exact decodeAvcc_ne_of_length hlen

/-- **The reader ends for all data, and its NAL units stand there one behind the other, without a
start code; from a stream of NAL units it yields exactly these, and if their lengths fit into
four bytes, they are read back from the frame.** -/
theorem AnnexBReader.yields_units :
    (∀ data, ∃ nalus, Yields data nalus ∧ InOrder nalus data ∧
      ∀ nalu ∈ nalus, nalu ≠ [] ∧ ¬[0, 0, 1] <:+: nalu) ∧
    ∀ leading units, ¬[0, 0, 1] <:+: leading → (∀ u ∈ units, CleanNalu u.2) →
      (∀ nalus, Yields (leading ++ stream units) nalus ↔ nalus = units.map (·.2)) ∧
      ((∀ u ∈ units, u.2.length < 2 ^ 32) →
        decodeAvcc (annexBToAvcc (leading ++ stream units)) = some (units.map (·.2))) := by
  refine ⟨fun data => ?_, fun leading units hlead hunit => ⟨fun nalus => ⟨fun h => ?_, ?_⟩, ?_⟩⟩
  · obtain ⟨nalus, h⟩ := exists_yields data
    exact ⟨nalus, h, h.spec.1, h.spec.2.1⟩
  · exact h.unique (yields_stream hlead hunit)
  · rintro rfl
    exact yields_stream hlead hunit
  intro hlen
  rw [annexBToAvcc_of_yields (yields_stream hlead hunit)]
  refine decodeAvccLoop_flatMap ?_ (forall_mem_map.mpr hlen)
  rw [length_flatMap_avccNalu]
  exact length_le_avccSize _

end MediasoupCpp
