import SupvanCups.FaultReport
import SupvanCups.PagePipeline
import SupvanCups.PrintSpeed
import SupvanCups.RasterDocument

/-!
# Pages of more rows than the tiler counts

The bitmap stage counts the rows of a page in 32 bits and the tiler in 16, with
a cast in between.  The device alone decides whether a transfer succeeds, so a
page of more rows than 16 bits hold loses whole multiples of 65,536 rows and
prints without a word, unless none are left: then there is nothing to compress,
and that is a failure.
-/

namespace SupvanCups

namespace Sheet

/-- The buffers a transfer splits a page into. -/
def buffers (sheet : Sheet) : Option (List PrintBuffer) :=
  pageBuffers sheet.rasterData sheet.width sheet.height sheet.density
    sheet.printheadWidthDots

/-- `transfer_page`: split, compress, print.  `none` is a panic or a loop that
does not end. -/
def transfer (sheet : Sheet) (encoder : Codec) (dev : KsDevice) :
    Option (HostScript (Except JobFailure Unit)) := do
  let buffers ← sheet.buffers
  match ← compressBuffers encoder buffers with
  | .error e => some (pure (.error (.other ("compression: " ++ e.display))))
  | .ok (compressed, avg) => some (dev.transferPage compressed (calcSpeed avg))

/-- Rows of a page that its buffers advertise. -/
def advertised (buffers : List PrintBuffer) : Nat :=
  (buffers.map PrintBuffer.columnCount).sum

/-- Whatever the compressor, the device and the printer behind it, a transfer
that reports success has advertised exactly the rows of the page, and no more
than 16 bits count. -/
def NeverTruncated (sheet : Sheet) : Prop :=
  ∀ (encoder : Codec) (dev : KsDevice), ∃ script,
    sheet.transfer encoder dev = some script ∧
      ∀ host : Device HostCall HostReply,
        (script.run host []).1 = .ok () →
          sheet.height ≤ 65535 ∧
            ∃ buffers, sheet.buffers = some buffers ∧
              advertised buffers = sheet.height

end Sheet

/-! ### What a page advertises -/

section Page

variable {sheet : Sheet}

/-- A page advertises its rows up to multiples of 65,536, in buffers that each
advertise some. -/
theorem exists_pageBuffers_advertised
    (head : 8 ≤ sheet.printheadWidthDots ∧ sheet.printheadWidthDots ≤ 2047) :
    ∃ buffers, sheet.buffers = some buffers ∧
      Sheet.advertised buffers = sheet.height % 65536 ∧
      ∀ buffer ∈ buffers, 0 < buffer.columnCount :=
  exists_pageBuffers sheet.rasterData sheet.width sheet.height sheet.density
    (by omega)

/-- On a printer that cooperates, a page with buffers is transferred. -/
theorem transferPage_cooperates (blocks : List Bytes) (speed : U16) :
    (((⟨.owned 0, 0⟩ : KsDevice).transferPage blocks speed).run
      (wireHost CooperativePrinter.overUsb.device) []).1 = .ok () := by
  obtain ⟨_, wire, run, _⟩ :=
    CooperativePrinter.overUsb.printCompressed_succeeds blocks speed
  have printed := printCompressed_runs CooperativePrinter.overUsb.device
    (.owned 0) blocks speed
  have ran : Session.runOn CooperativePrinter.overUsb.device
      ((PrinterHandle.owned 0).codec.printCompressed blocks speed) =
        (.ok (), wire) := run
  rw [ran] at printed
  have whole : Runs CooperativePrinter.overUsb.device
      ((⟨.owned 0, 0⟩ : KsDevice).transferPage blocks speed) [] (.ok ())
        wire := by
    apply (Runs.act rfl).bind
    apply printed.bind
    exact (Runs.act rfl).bind (.pure _)
  obtain ⟨later, ends, _⟩ := whole [] rfl
  rw [ends]

theorem neverTruncated_of_counted
    (head : 8 ≤ sheet.printheadWidthDots ∧ sheet.printheadWidthDots ≤ 2047)
    (counted : sheet.height < 65536 ∨ 65536 ∣ sheet.height) :
    sheet.NeverTruncated := by
  obtain ⟨buffers, built, columns, positive⟩ :=
    exists_pageBuffers_advertised head
  intro encoder dev
  obtain ⟨outcome, packs⟩ := compressBuffers_ends encoder buffers
  rcases outcome with error | ⟨blocks, avg⟩
  · refine ⟨pure (.error (.other ("compression: " ++ error.display))), ?_, ?_⟩
    · simp only [Sheet.transfer, built, packs, Option.bind_eq_bind,
        Option.bind_some]
    · intro host succeeds
      cases succeeds
  · refine ⟨dev.transferPage blocks (calcSpeed avg), ?_, ?_⟩
    · simp only [Sheet.transfer, built, packs, Option.bind_eq_bind,
        Option.bind_some]
    · intro host _
      -- Where no row is left there is nothing to compress.
      have left : 0 < sheet.height % 65536 := by
        rw [← columns]
        cases buffers with
        | nil => cases packs
        | cons buffer buffers =>
            have := positive buffer (by simp)
            rw [Sheet.advertised, List.map_cons, List.sum_cons]
            omega
      have few : sheet.height ≤ 65535 := by omega
      exact ⟨few, buffers, built, by rw [columns, Nat.mod_eq_of_lt (by omega)]⟩

/-- A page that is never truncated has rows that 16 bits count, or whole
multiples of what they count. -/
theorem Sheet.NeverTruncated.counted
    (head : 8 ≤ sheet.printheadWidthDots ∧ sheet.printheadWidthDots ≤ 2047)
    (never : sheet.NeverTruncated) :
    sheet.height < 65536 ∨ 65536 ∣ sheet.height := by
  obtain ⟨buffers, built, columns, _⟩ := exists_pageBuffers_advertised head
  rw [or_iff_not_imp_right]
  intro remains
  have nonempty : buffers ≠ [] := by
    rintro rfl
    exact remains (Nat.dvd_of_mod_eq_zero columns.symm)
  obtain ⟨blocks, avg, packs⟩ := compressBuffers_storingEncoder nonempty
  obtain ⟨script, transfers, kept⟩ := never storingEncoder ⟨.owned 0, 0⟩
  simp only [Sheet.transfer, built, packs, Option.bind_eq_bind,
    Option.bind_some, Option.some.injEq] at transfers
  subst transfers
  have few := (kept _ (transferPage_cooperates blocks (calcSpeed avg))).1
  omega

/-- A transfer never truncates a page exactly when 16 bits count its rows, or
none are left of them. -/
theorem neverTruncated_iff
    (head : 8 ≤ sheet.printheadWidthDots ∧ sheet.printheadWidthDots ≤ 2047) :
    sheet.NeverTruncated ↔ sheet.height < 65536 ∨ 65536 ∣ sheet.height :=
  ⟨fun never => never.counted head, neverTruncated_of_counted head⟩

/-- A narrow label of a head of 384 dots. -/
theorem neverTruncated_label :
    (8 ≤ 384 ∧ 384 ≤ 2047) ∧
      ((⟨8, 240, List.replicate 240 0#8, 4#8, 384⟩ : Sheet).NeverTruncated ↔
        240 < 65536 ∨ 65536 ∣ 240) :=
  ⟨by decide, neverTruncated_iff (by decide)⟩

/-- A page of 65,537 rows prints one of them and reports success. -/
theorem neverTruncated_loses :
    ¬ (⟨8, 65537, List.replicate 65537 0#8, 4#8, 384⟩ :
      Sheet).NeverTruncated := by
  intro never
  have counted := never.counted (by decide)
  exact absurd counted (by decide)

end Page

end SupvanCups
