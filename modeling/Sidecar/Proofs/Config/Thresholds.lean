import Mathlib.Algebra.Group.Nat.Defs
import Sidecar.Config.Settings
import Sidecar.Proofs.Json.Printing
import Sidecar.Proofs.Json.Values

/-!
# Thresholds are read back from their text

Thresholds are written with the whole milliseconds of their timeout as a number of 64 bits, and a
subscription clamps these to 32 bits. What is written can always be read back. It means the same to a
subscription as before, unless a timeout of 2⁶⁴ milliseconds or more has wrapped around to a number that
is not clamped (`thresholds_areReread`).
-/

namespace Sidecar.BufferSettings

open Json

/-! ## Writing and reading -/

/-- Thresholds are written as integers of 64 bits. -/
lemma codec_writesIntegral : codec.WritesIntegral :=
  Codec.record_writesIntegral (by simp [form, timeoutCodec, Codec.WritesIntegral.refine])

/-- What is left of thresholds in their text. -/
def asWritten (s : BufferSettings) : BufferSettings :=
  { s with timeout := .ofMillis (UInt64.ofNat s.timeout.millis) }

/-- The milliseconds of a timeout are written as what is left of them in 64 bits. -/
lemma millis_asWritten (s : BufferSettings) :
    s.asWritten.timeout.millis = s.timeout.millis % 2 ^ 64 := by
  rw [asWritten, Timespan.millis_ofMillis, UInt64.toNat_ofNat']

/-- An integer of 32 bits is read back. -/
lemma read_uint32 {room : Nat} (inside : 0 < room) (value : UInt32) :
    Codec.uint32.read room (Codec.uint32.write value).toNode = .ok value :=
  Codec.uint32_rereads.reads inside (.refl _)

/-- A timeout is not always read back, so its codec has no law of its own. -/
lemma read_timeout {room : Nat} (inside : 0 < room) (t : Timespan) :
    timeoutCodec.read room (timeoutCodec.write t).toNode = .ok (.ofMillis (UInt64.ofNat t.millis)) :=
  Codec.uint64_rereads.refine_read inside (.refl _) rfl

/-- What is written is read back as it was written. -/
lemma decode_write (s : BufferSettings) :
    codec.decode (codec.write s).toBytes = .ok s.asWritten := by
  have written : codec.write s = .object [("max_items", Codec.uint32.write s.maxItems),
      ("max_bytes", Codec.uint32.write s.maxBytes), ("timeout", timeoutCodec.write s.timeout)] := rfl
  have once : form.names.Nodup := by simp [form]
  have inside : 0 < nestingLimit - 1 := by decide
  rw [(codec_writesIntegral s).spells.decode_eq, written, codec, Codec.record_read_toNode_iff once]
  refine ⟨by decide, ?_⟩
  simp only [form, Form.gathers_fieldOr, Form.gathers_make]
  refine ⟨_, s.asWritten.timeout, ⟨_, s.maxBytes, ⟨_, s.maxItems, rfl, ?items, rfl⟩, ?bytes, rfl⟩,
    ?timeout, rfl⟩
  case items => exact .inr ⟨_, rfl, read_uint32 inside _⟩
  case bytes => exact .inr ⟨_, rfl, read_uint32 inside _⟩
  case timeout => exact .inr ⟨_, rfl, read_timeout inside _⟩

/-! ## What thresholds mean to a subscription -/

/-- A subscription has the milliseconds of the timeout, or as many as 32 bits can hold. -/
lemma toNat_timeoutMs (s : BufferSettings) :
    s.toBuffering.timeoutMs.toNat = min s.timeout.millis (2 ^ 32 - 1) := by
  have clamped : min s.timeout.millis (UInt32.size - 1) < UInt32.size :=
    Nat.lt_of_le_of_lt (Nat.min_le_right ..) (by decide)
  exact UInt32.toNat_ofNat_of_lt' clamped

/-- Two thresholds mean the same to a subscription just if they are equal up to the clamped timeout. -/
lemma toBuffering_eq_iff (s s' : BufferSettings) :
    s.toBuffering = s'.toBuffering ↔ s.maxItems = s'.maxItems ∧ s.maxBytes = s'.maxBytes ∧
      min s.timeout.millis (2 ^ 32 - 1) = min s'.timeout.millis (2 ^ 32 - 1) := by
  rw [← toNat_timeoutMs, ← toNat_timeoutMs, UInt32.toNat_inj, toBuffering, toBuffering,
    Buffering.mk.injEq]

/-- A number that has wrapped around is clamped as before only if it is still large. -/
lemma min_mod_eq_iff (n : Nat) :
    min (n % 2 ^ 64) (2 ^ 32 - 1) = min n (2 ^ 32 - 1) ↔ n < 2 ^ 64 ∨ 2 ^ 32 - 1 ≤ n % 2 ^ 64 := by
  omega

/-- What has become of thresholds `s` that are read back as `s'`. -/
structure IsRereadAs (s s' : BufferSettings) : Prop where
  maxItems : s'.maxItems = s.maxItems
  maxBytes : s'.maxBytes = s.maxBytes
  timeout : s'.timeout.millis = s.timeout.millis % 2 ^ 64
  clamped : s.toBuffering.timeoutMs.toNat = min s.timeout.millis (2 ^ 32 - 1)
  /-- Both mean the same if no timeout wraps around, and else only if what is left of it is as good as
  endless. -/
  same_iff : s'.toBuffering = s.toBuffering ↔
    s.timeout.millis < 2 ^ 64 ∨ 2 ^ 32 - 1 ≤ s.timeout.millis % 2 ^ 64

/-- All thresholds are read back, with what the timeout is once it has been wrapped around. -/
theorem thresholds_areReread (s : BufferSettings) :
    ∃ s', codec.decode (codec.write s).toBytes = .ok s' ∧ s.IsRereadAs s' := by
  refine ⟨s.asWritten, s.decode_write, rfl, rfl, s.millis_asWritten, s.toNat_timeoutMs, ?_⟩
  rw [toBuffering_eq_iff, millis_asWritten, min_mod_eq_iff]
  exact ⟨fun same => same.2.2, fun kept => ⟨rfl, rfl, kept⟩⟩

/-- The longest timeout of a subscription is nothing when it is read back. -/
theorem wrapped_timeout_isLost :
    let s : BufferSettings := ⟨10000, 262144, ⟨18446744073709551, 616000000, by decide⟩⟩
    let s' : BufferSettings := ⟨10000, 262144, ⟨0, 0, by decide⟩⟩
    s.timeout.millis = 2 ^ 64 ∧ codec.decode (codec.write s).toBytes = .ok s' ∧
      s.toBuffering = ⟨10000, 262144, 4294967295⟩ ∧ s'.toBuffering = ⟨10000, 262144, 0⟩ ∧
      s'.toBuffering ≠ s.toBuffering := by
  refine ⟨rfl, ?_, by decide +kernel, by decide +kernel, by decide +kernel⟩
  rw [decode_write]
  rfl

end Sidecar.BufferSettings
