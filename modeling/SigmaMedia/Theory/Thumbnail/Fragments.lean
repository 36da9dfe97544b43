import SigmaMedia.Theory.Thumbnail.Collect

/-!
# Joining Fragments

A unit too large for a packet is cut behind its header and sent in fragments.
The header itself is not sent: its upper bits are in the first byte of every
fragment, its type in the second, next to the role of the fragment.

The joiner keeps what it has in one buffer. Fragments of an abandoned unit may
still be there when a new one starts, but a first fragment throws them away,
so a unit comes out whole from whatever state the joiner is in.

The middle fragments only add to the buffer, so the induction runs over
everything behind the first fragment, for any content of the buffer.

## Main definitions

* `fuA`: A fragment of a unit.
* `laterFragments`, `fragments`: The fragments of a unit cut into pieces.

## Theorems

* `feed_laterFragments`: What is behind the first fragment adds up.
* `feed_fragments`: A unit comes back from its fragments.
-/

namespace SigmaMedia

namespace Thumbnail

open Bytes Exec Trace

/-- A fragment: the upper bits of the header with the fragment type, the role
    with the type of the unit, and a piece of what is behind the header. -/
def fuA (role header : UInt8) (piece : Bytes) : Bytes :=
  ((header &&& 0b1110_0000) ||| 28) :: (role ||| (header &&& 0b0001_1111)) :: piece

/-- The fragments behind the first one: the last has the end bit. -/
def laterFragments (header : UInt8) : List Bytes → List Bytes
  | [] => []
  | [last] => [fuA 0b0100_0000 header last]
  | piece :: next :: rest => fuA 0 header piece :: laterFragments header (next :: rest)

/-- The fragments of a unit cut into the given pieces: the first has the start
    bit. -/
def fragments (header : UInt8) : List Bytes → List Bytes
  | [] => []
  | first :: rest => fuA 0b1000_0000 header first :: laterFragments header rest

section Fragment

variable {header : UInt8} {packet : RTPPacket} {piece : Bytes}

/-- The header of a unit has no forbidden bit. -/
theorem forbidden_of_isNalUnit (h : IsNalUnit header) : header &&& 0b1000_0000 = 0 := by
  rcases header with ⟨v⟩
  revert v
  decide +kernel

/-- The forbidden bit of a fragment is that of the unit. -/
theorem isFuA_fuA (h : header &&& 0b1000_0000 = 0) : IsFuA ((header &&& 0b1110_0000) ||| 28) := by
  rcases header with ⟨v⟩
  revert v
  decide +kernel

/-- A first fragment, in any state. -/
theorem decodeNalUnit_fuA_start (h : header &&& 0b1000_0000 = 0)
    (hpayload : packet.payload = fuA 0b1000_0000 header piece) (decoder : NALDecoder) :
    decoder.decodeNalUnit packet = .ok (⟨header :: piece⟩, none) := by
  have hrole : 128 ≤ (0b1000_0000 ||| (header &&& 0b0001_1111)).toNat ∧
      (0b1000_0000 ||| (header &&& 0b0001_1111)).toNat < 192 := by
    clear hpayload h
    rcases header with ⟨v⟩
    revert v
    decide +kernel
  -- The two halves of the header are put together again.
  have hheader : (((header &&& 0b1110_0000) ||| 28) &&& 0b1110_0000)
      ^^^ ((0b1000_0000 ||| (header &&& 0b0001_1111)) &&& 0b0001_1111) = header := by
    clear hpayload h hrole
    rcases header with ⟨v⟩
    revert v
    decide +kernel
  rw [decodeNalUnit_start hpayload (isFuA_fuA h) hrole.1 hrole.2, hheader]

theorem decodeNalUnit_fuA_continue (h : header &&& 0b1000_0000 = 0)
    (hpayload : packet.payload = fuA 0 header piece) (decoder : NALDecoder) :
    decoder.decodeNalUnit packet = .ok (⟨decoder.fragmentationBuffer ++ piece⟩, none) := by
  have hrole : (0 ||| (header &&& 0b0001_1111)).toNat < 64 := by
    clear hpayload h
    rcases header with ⟨v⟩
    revert v
    decide +kernel
  exact decodeNalUnit_continue hpayload (isFuA_fuA h) hrole decoder

theorem decodeNalUnit_fuA_finish (h : header &&& 0b1000_0000 = 0)
    (hpayload : packet.payload = fuA 0b0100_0000 header piece) (decoder : NALDecoder) :
    decoder.decodeNalUnit packet = .ok (⟨[]⟩, some (decoder.fragmentationBuffer ++ piece)) := by
  have hrole : IsEnd (0b0100_0000 ||| (header &&& 0b0001_1111)) := by
    clear hpayload h
    rcases header with ⟨v⟩
    revert v
    decide +kernel
  exact decodeNalUnit_finish hpayload (isFuA_fuA h) hrole decoder

end Fragment

/-- What is behind the first fragment adds up, and the last one hands it
    out. -/
theorem feed_laterFragments {header : UInt8} (hheader : header &&& 0b1000_0000 = 0)
    {pieces : List Bytes} (hne : pieces ≠ []) {packets : List RTPPacket}
    (h : packets.map RTPPacket.payload = laterFragments header pieces) (buffer : Bytes) :
    feed NALDecoder.decodeNalUnit ⟨buffer⟩ packets
      = .ok (⟨[]⟩, List.replicate (pieces.length - 1) none
          ++ [some (buffer ++ pieces.flatten)]) := by
  -- Over the pieces, for any buffer: each but the last adds to it.
  induction pieces generalizing packets buffer with
  | nil => exact absurd rfl hne
  | cons piece rest ih =>
      rcases rest with _ | ⟨next, rest⟩
      · rw [laterFragments, List.map_eq_cons_iff] at h
        rcases h with ⟨packet, packets', rfl, hpayload, hnone⟩
        rw [List.map_eq_nil_iff] at hnone
        rw [hnone, List.flatten_singleton]
        exact feed_cons (decodeNalUnit_fuA_finish hheader hpayload ⟨buffer⟩) rfl
      · rw [laterFragments, List.map_eq_cons_iff] at h
        rcases h with ⟨packet, packets', rfl, hpayload, hrest⟩
        have hlater := ih (List.cons_ne_nil next rest) hrest (buffer ++ piece)
        rw [List.flatten_cons, ← List.append_assoc]
        exact feed_cons (decodeNalUnit_fuA_continue hheader hpayload ⟨buffer⟩) hlater

/-- A unit comes back from its fragments, from any state of the joiner: nothing
    comes out before the last one, and nothing is left behind. -/
theorem feed_fragments (decoder : NALDecoder) (header : UInt8)
    (hheader : header &&& 0b1000_0000 = 0) (body : Bytes) (pieces : List Bytes)
    (hbody : body = pieces.flatten) (hpieces : 2 ≤ pieces.length) (packets : List RTPPacket)
    (h : packets.map RTPPacket.payload = fragments header pieces) :
    feed NALDecoder.decodeNalUnit decoder packets
      = .ok ({ fragmentationBuffer := [] },
          List.replicate (pieces.length - 1) none ++ [some (header :: body)]) := by
  rcases pieces with _ | ⟨first, _ | ⟨next, rest⟩⟩
  · exact absurd hpieces (Nat.not_succ_le_zero 1)
  · exact absurd hpieces (Nat.not_succ_le_self 1)
  · rw [fragments, List.map_eq_cons_iff] at h
    rcases h with ⟨packet, packets', rfl, hpayload, hrest⟩
    have hlater := feed_laterFragments hheader (List.cons_ne_nil next rest) hrest (header :: first)
    rw [hbody, List.flatten_cons]
    exact feed_cons (decodeNalUnit_fuA_start hheader hpayload decoder) hlater

/-- A packet of the given payload. -/
def carrying (payload : Bytes) : RTPPacket :=
  { marker := false, version := 2, padding := false, ext := false, csrcCount := 0,
    payloadType := 96, sequenceNumber := 1, timestamp := 9, ssrc := 7, csrc := [], payload }

/-- Three fragments, the middle one empty, with leftovers in the buffer. -/
theorem feed_fragments_three :
    feed NALDecoder.decodeNalUnit ⟨[0x61, 0xff]⟩
        ([[0x7c, 0x85, 0xaa], [0x7c, 0x05], [0x7c, 0x45, 0xcc]].map carrying)
      = .ok (⟨[]⟩, [none, none, some [0x65, 0xaa, 0xcc]]) :=
  feed_fragments ⟨[0x61, 0xff]⟩ 0x65 rfl [0xaa, 0xcc] [[0xaa], [], [0xcc]] rfl (by decide) _ rfl

end Thumbnail

end SigmaMedia
