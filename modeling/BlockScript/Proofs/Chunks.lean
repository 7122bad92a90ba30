import BlockScript.Asset.Recording

/-!
# The chunks of a recording

A recording is read by going from chunk to chunk, each time by the size that the chunk announces. If
chunks are laid out one after the other, the walk meets exactly these, whatever they hold, and ends at
the data: it finds the rate of the last format before them, and their size
(`Recording.infoOf_layout`). What lies behind the data does not matter. On any other bytes the walk
ends, too, because every chunk takes at least the eight bytes of its header.
-/

namespace BlockScript

namespace Recording

/-- A chunk before the data: any name but that of the data, and a size that four bytes can hold. In a
format there is room for a rate. -/
structure Part where
  name : Bytes
  payload : Bytes
  length_name : name.length = 4
  length_payload : payload.length < Nat.pow 256 4
  ne_data : name ≠ dataName
  length_format : name = formatName → 8 ≤ payload.length

/-- A chunk laid out: its name, its size with the lowest byte first, and what it holds. -/
def layout (name payload : Bytes) : Bytes := name ++ (Bytes.ofNat 4 payload.length ++ payload)

namespace Part

def bytes (p : Part) : Bytes := layout p.name p.payload

def rate (p : Part) : Nat := Bytes.little (Bytes.slice p.payload 4 8)

/-- The rate of the last format, if there is one. -/
def lastRate? (parts : List Part) : Option Nat :=
  ((parts.filter (·.name = formatName)).getLast?).map rate

theorem lastRate?_cons (p : Part) (parts : List Part) (rate : Nat) :
    (lastRate? (p :: parts)).getD rate =
      (lastRate? parts).getD (if p.name = formatName then p.rate else rate) := by
  rw [lastRate?, lastRate?, List.filter_cons]
  by_cases hp : p.name = formatName
  · rw [if_pos (decide_eq_true hp), if_pos hp, List.getLast?_cons]
    cases (parts.filter (·.name = formatName)).getLast? <;> rfl
  · rw [if_neg (by simp [hp]), if_neg hp]

end Part

/-! ### One chunk -/

section

variable {name payload : Bytes} (hname : name.length = 4)
  (hpayload : payload.length < Nat.pow 256 4) (rest : Bytes)

include hname

theorem length_layout : (layout name payload).length = 8 + payload.length := by
  rw [layout, List.length_append, List.length_append, Bytes.length_ofNat, hname, ← Nat.add_assoc]

theorem name_chunkAt_layout : (chunkAt (layout name payload ++ rest)).name = name := by
  rw [chunkAt, layout, List.append_assoc, ← hname]
  exact List.take_left

include hpayload in
theorem size_chunkAt_layout : (chunkAt (layout name payload ++ rest)).size = payload.length := by
  have hslice : Bytes.slice (layout name payload ++ rest) 4 8 = Bytes.ofNat 4 payload.length := by
    rw [Bytes.slice, layout, List.append_assoc, ← hname, List.drop_left, hname, List.append_assoc]
    exact List.take_left' (Bytes.length_ofNat 4 _)
  rw [chunkAt, hslice]
  exact Bytes.little_ofNat 4 _ hpayload

/-- The rate is found if the chunk has room for one. -/
theorem rate_chunkAt_layout (hrate : 8 ≤ payload.length) :
    (chunkAt (layout name payload ++ rest)).rate = Bytes.little (Bytes.slice payload 4 8) := by
  have hheader : (name ++ Bytes.ofNat 4 payload.length).length = 8 := by
    rw [List.length_append, hname, Bytes.length_ofNat]
  have hdrop : (layout name payload ++ rest).drop (8 + 4) = payload.drop 4 ++ rest := by
    rw [← List.drop_drop, layout, ← List.append_assoc, List.append_assoc, ← hheader, List.drop_left,
      List.drop_append_of_le_length (by omega)]
  change Bytes.little (((layout name payload ++ rest).drop (8 + 4)).take 4) = _
  rw [hdrop, List.take_append_of_le_length (by rw [List.length_drop]; omega)]
  rfl

end

/-- The walk goes on behind a chunk. -/
theorem chunks_layout {name payload : Bytes} (hname : name.length = 4)
    (hpayload : payload.length < Nat.pow 256 4) {rest : Bytes} (h : payload ≠ [] ∨ rest ≠ []) :
    chunks (layout name payload ++ rest) = chunkAt (layout name payload ++ rest) :: chunks rest := by
  have hlength : (layout name payload).length = _ := length_layout hname
  have hlong : 8 < (layout name payload ++ rest).length := by
    rw [List.length_append, hlength]
    rcases h with h | h <;> have := List.length_pos_iff.2 h <;> omega
  rw [chunks, dif_pos hlong, size_chunkAt_layout hname hpayload, ← hlength, List.drop_left]

/-! ### All chunks -/

/-- The walk goes through chunks that are no data, and only formats matter. -/
theorem samples_parts (parts : List Part) {tail : Bytes} (htail : tail ≠ []) (rate : Nat) :
    samples rate (chunks (parts.flatMap Part.bytes ++ tail)) =
      samples ((Part.lastRate? parts).getD rate) (chunks tail) := by
  induction parts generalizing rate with
  | nil => rfl
  | cons p parts ih =>
    have hrest : parts.flatMap Part.bytes ++ tail ≠ [] := List.append_ne_nil_of_right_ne_nil _ htail
    rw [List.flatMap_cons, List.append_assoc, Part.bytes,
      chunks_layout p.length_name p.length_payload (.inr hrest), samples,
      name_chunkAt_layout p.length_name, Part.lastRate?_cons, ← ih]
    by_cases hp : p.name = formatName
    · rw [if_pos hp, if_pos hp, rate_chunkAt_layout p.length_name _ (p.length_format hp)]
      rfl
    · rw [if_neg hp, if_neg hp, if_neg p.ne_data]

theorem samples_data {payload : Bytes} (hdata : payload ≠ [])
    (hsize : payload.length < Nat.pow 256 4) (rest : Bytes) (rate : Nat) :
    samples rate (chunks (layout dataName payload ++ rest)) = some (rate, payload.length / 4) := by
  rw [chunks_layout rfl hsize (.inl hdata), samples, name_chunkAt_layout rfl,
    if_neg (by decide), if_pos rfl, size_chunkAt_layout rfl hsize]

/-- Every chunk takes eight bytes at least. -/
theorem length_chunks_le (b : Bytes) : 8 * (chunks b).length ≤ b.length := by
  induction b using chunks.induct with
  | case1 b h ih =>
    rw [chunks, dif_pos h, List.length_cons]
    rw [List.length_drop] at ih
    omega
  | case2 b h =>
    rw [chunks, dif_neg h]
    exact Nat.zero_le _

/-- **The walk over the chunks of a recording.** On chunks laid out one after the other and data
behind them it finds the rate of the last format, or the usual one, and a quarter of the size of the
data. On all bytes it ends after so many chunks at most, with a rate and a number. -/
theorem infoOf_layout :
    (∀ (size : Bytes) (parts : List Part) (data rest : Bytes), size.length = 4 → data ≠ [] →
      data.length < Nat.pow 256 4 →
      infoOf (.bytes (riffName ++ (size ++ (waveName ++ (parts.flatMap Part.bytes ++
        (layout dataName data ++ rest)))))) =
        .ok ((Part.lastRate? parts).getD 48000, data.length / 4)) ∧
    ∀ b : Bytes, 8 * (chunks b).length ≤ b.length ∧
      ∃ rate count, infoOf (.bytes b) = .ok (rate, count) := by
  refine ⟨fun size parts data rest hsize hdata hlength => congrArg Except.ok ?_,
    fun b => ⟨length_chunks_le b, _, _, rfl⟩⟩
  have htail : layout dataName data ++ rest ≠ [] :=
    List.append_ne_nil_of_left_ne_nil (by simp [layout, dataName]) _
  rcases size with _ | ⟨a, _ | ⟨b, _ | ⟨c, _ | ⟨d, _ | _⟩⟩⟩⟩ <;> cases hsize
  rw [info, if_pos ⟨rfl, rfl⟩]
  change (samples defaultRate (chunks (parts.flatMap Part.bytes ++ _))).getD _ = _
  rw [samples_parts parts htail, samples_data hdata hlength]
  rfl

/-- A format after a chunk without bytes, and data of five bytes. -/
theorem infoOf_layout_format :
    infoOf (.bytes (riffName ++ ([0, 0, 0, 0] ++ (waveName ++ (layout [65, 66, 67, 68] [] ++
      layout formatName [1, 0, 1, 0, 0x44, 0xac, 0, 0] ++
      (layout dataName [1, 2, 3, 4, 5] ++ [9])))))) = .ok (44100, 1) :=
  infoOf_layout.1 [0, 0, 0, 0] [⟨[65, 66, 67, 68], [], rfl, by decide, by decide, by decide⟩,
    ⟨formatName, [1, 0, 1, 0, 0x44, 0xac, 0, 0], rfl, by decide, by decide, by decide⟩]
    [1, 2, 3, 4, 5] [9] rfl (by decide) (by decide)

end Recording

end BlockScript
