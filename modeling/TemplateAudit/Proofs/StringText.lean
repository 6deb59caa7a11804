import TemplateAudit.Proofs.Results
import TemplateAudit.Source.Scan

namespace TemplateAudit.Json

open Source (Place)
open Source.Place (closeString decodeBody lineAfter)

/-! # Strings: one end for both readers

The JSON reader decodes a string while it looks for the closing quote. The scan looks for the quote
first and has what stands before it decoded afterwards. Both are shown here to stop at the same
quote of every text that the JSON reader accepts, and to give the same text.
-/

/-! ## What the scan passes over -/

/-- Between the quotes of a string the scan goes on behind `taken`, in the same line. -/
def Passes (taken : List Char) : Prop :=
  '\n' ∉ taken ∧ ∀ line rest, closeString line (taken ++ rest) =
    (closeString line rest).map fun (body, after) => (taken ++ body, after)

theorem passes_nil : Passes [] := by
  refine ⟨by simp, ?_⟩
  intro line rest
  simp

/-- The scan passes over one part after the other. -/
theorem passes_append {a b : List Char} (ha : Passes a) (hb : Passes b) : Passes (a ++ b) := by
  refine ⟨by simp [ha.1, hb.1], ?_⟩
  intro line rest
  rw [List.append_assoc, ha.2 line (b ++ rest), hb.2 line rest, Option.map_map]
  congr 1
  funext pair
  simp

/-- The scan passes over a character that is no quote, no backslash and no line feed. -/
theorem passes_plain {c : Char} (hquote : c ≠ '"') (hslash : c ≠ '\\') (hline : c ≠ '\n') :
    Passes [c] := by
  refine ⟨by simpa using hline.symm, ?_⟩
  intro line rest
  conv => lhs; unfold closeString
  simp [hquote, hslash, lineAfter, hline]

/-- The scan passes over a backslash with the character behind it, even a quote. -/
theorem passes_escaped {c : Char} (hline : c ≠ '\n') : Passes ['\\', c] := by
  refine ⟨by simpa using hline.symm, ?_⟩
  intro line rest
  conv => lhs; unfold closeString
  simp [lineAfter, hline]

theorem passes_of_forall {cs : List Char}
    (h : ∀ c ∈ cs, c ≠ '"' ∧ c ≠ '\\' ∧ c ≠ '\n') : Passes cs := by
  -- one plain character at a time
  induction cs with
  | nil => exact passes_nil
  | cons c rest ih =>
      have hc := h c (by simp)
      exact passes_append (passes_plain hc.1 hc.2.1 hc.2.2) (ih fun d hd => h d (by simp [hd]))

/-- What the scan passes over is the body of the string that the next quote ends. -/
theorem closeString_of_passes {body : List Char} (h : Passes body) (line : Nat)
    (rest : List Char) :
    closeString line (body ++ '"' :: rest) = some (body, ⟨rest, line⟩) := by
  rw [h.2 line ('"' :: rest)]
  unfold closeString
  simp

/-! ## Escapes -/

/-- Digits are plain characters. -/
theorem hexDigit?_isSome {c : Char} (h : (Ascii.hexDigit? c).isSome) :
    c ≠ '"' ∧ c ≠ '\\' ∧ c ≠ '\n' := by
  refine ⟨?_, ?_, ?_⟩ <;> (rintro rfl; revert h; decide)

/-- A number of an escape has four digits. -/
theorem hexNumber?_isSome {cs : List Char} (h : (hexNumber? cs).isSome) :
    cs.length = 4 ∧ ∀ c ∈ cs, (Ascii.hexDigit? c).isSome := by
  unfold hexNumber? at h
  split at h
  · next a b c d =>
    simp only [Option.bind_eq_bind, Option.isSome_bind, Option.any_eq_true] at h
    rcases h with ⟨a', ha, b', hb, c', hc, d', hd, -⟩
    simp [ha, hb, hc, hd]
  · simp at h

/-- Four digits are read whatever follows them, and the scan passes over them. -/
theorem readHex_sound {cs tail : List Char} {n : Nat} (h : readHex cs = .ok (n, tail)) :
    ∃ digits, cs = digits ++ tail ∧ Passes digits ∧
      ∀ rest, readHex (digits ++ rest) = .ok (n, rest) := by
  unfold readHex at h
  split at h
  · simp [stopHere] at h
  · next hbytes =>
    split at h
    · next m hm =>
      have hshape := hexNumber?_isSome (by rw [hm]; rfl)
      have hpair : m = n ∧ cs.drop 4 = tail := by simpa using h
      refine ⟨cs.take 4, ?_, ?_, ?_⟩
      · rw [← hpair.2, List.take_append_drop]
      · exact passes_of_forall fun c hc => hexDigit?_isSome (hshape.2 c hc)
      · intro rest
        have htake : (cs.take 4 ++ rest).take 4 = cs.take 4 := by
          rw [List.take_append_of_le_length (by omega), List.take_of_length_le (by omega)]
        have hdrop : (cs.take 4 ++ rest).drop 4 = rest := by
          rw [List.drop_append_of_le_length (by omega), List.drop_of_length_le (by omega)]
          rfl
        simp only [readHex, htake, hbytes, if_false, hm, hdrop, hpair.1]
    · simp at h

/-- The second half of a pair is read whatever follows it, and the scan passes over it. -/
theorem readLowSurrogate_sound {high : Nat} {cs tail : List Char} {c : Char}
    (h : readLowSurrogate high cs = .ok (c, tail)) :
    ∃ taken, cs = taken ++ tail ∧ Passes taken ∧
      ∀ rest, readLowSurrogate high (taken ++ rest) = .ok (c, rest) := by
  unfold readLowSurrogate at h
  split at h
  · simp [stopHere] at h
  · simp [stopHere] at h
  · next more =>
    rcases bind_ok_iff.mp h with ⟨⟨low, after⟩, hhex, hlow⟩
    rcases readHex_sound hhex with ⟨digits, hcs, hpass, hread⟩
    simp only at hlow
    split at hlow
    · next hrange =>
      rw [Except.ok.injEq, Prod.mk.injEq] at hlow
      refine ⟨'\\' :: 'u' :: digits, ?_, ?_, ?_⟩
      · simp [hcs, hlow.2]
      · exact passes_append (passes_escaped (by decide)) hpass
      · intro rest
        simp [readLowSurrogate, hread, ok_bind, hrange, hlow.1]
    · simp [stopHere] at hlow
  · simp [stopNext] at h
  · simp [stopNext] at h

/-- An escape is read whatever follows it, and the scan passes over it with its backslash. -/
theorem readEscape_sound {cs tail : List Char} {c : Char} (h : readEscape cs = .ok (c, tail)) :
    ∃ taken, cs = taken ++ tail ∧ Passes ('\\' :: taken) ∧
      ∀ rest, readEscape (taken ++ rest) = .ok (c, rest) := by
  unfold readEscape at h
  split at h
  case h_10 more =>
    rcases bind_ok_iff.mp h with ⟨⟨n, after⟩, hhex, hn⟩
    rcases readHex_sound hhex with ⟨digits, hcs, hpass, hread⟩
    have hdigits : Passes ('\\' :: 'u' :: digits) :=
      passes_append (passes_escaped (by decide)) hpass
    simp only at hn
    split at hn
    · simp [stopHere] at hn
    · next hlow =>
      split at hn
      · next hhigh =>
        -- the first half of a pair: the second half is part of the same escape
        rcases readLowSurrogate_sound hn with ⟨taken, hafter, htaken, hpair⟩
        refine ⟨'u' :: digits ++ taken, by simp [hcs, hafter], ?_, ?_⟩
        · exact passes_append hdigits htaken
        · intro rest
          simp only [List.cons_append, List.append_assoc, readEscape, hread, bind, Except.bind,
            hlow, hhigh, and_self, if_false, if_true, hpair]
      · next hhigh =>
        rw [Except.ok.injEq, Prod.mk.injEq] at hn
        refine ⟨'u' :: digits, by simp [hcs, hn.2], hdigits, ?_⟩
        intro rest
        simp only [List.cons_append, readEscape, hread, ok_bind, hlow, hhigh, if_false,
          hn.1]
  all_goals try (simp [stopHere, stopNext] at h; done)
  all_goals
    obtain ⟨rfl, rfl⟩ : _ = c ∧ _ = tail := by simpa using h
    exact ⟨[_], rfl, passes_escaped (by decide), fun rest => rfl⟩

/-! ## Whole strings -/

/-- Between the quotes of a string `body` stands for the characters `decoded`: the scan passes over
it, the reader reads it up to the closing quote, and without a backslash nothing is decoded. More
steps than characters make no difference. -/
structure Decodes (body decoded : List Char) : Prop where
  passes : Passes body
  plain : body.contains '\\' = false → decoded = body
  reads : ∀ fuel rest, body.length < fuel →
    readCharacters fuel (body ++ '"' :: rest) = .ok (decoded, rest)

/-- An empty string decodes to no characters. -/
theorem Decodes.nil : Decodes [] [] := by
  refine ⟨passes_nil, fun _ => rfl, ?_⟩
  intro fuel rest hfuel
  rcases Nat.exists_eq_succ_of_ne_zero (Nat.ne_of_gt hfuel) with ⟨n, rfl⟩
  simp [readCharacters]

/-- One more character in front, written as it is or as an escape. -/
theorem Decodes.front {c : Char} {taken body decoded : List Char} (h : Decodes body decoded)
    (hpass : Passes taken) (hnonempty : taken ≠ [])
    (hplain : taken.contains '\\' = false → taken = [c])
    (hread : ∀ fuel more result, readCharacters fuel more = .ok result →
      readCharacters (fuel + 1) (taken ++ more) = .ok (c :: result.1, result.2)) :
    Decodes (taken ++ body) (c :: decoded) := by
  refine ⟨passes_append hpass h.passes, ?_, ?_⟩
  · intro hno
    have hboth : taken.contains '\\' = false ∧ body.contains '\\' = false := by
      simpa using hno
    rw [h.plain hboth.2, hplain hboth.1, List.singleton_append]
  · intro fuel rest hfuel
    have htaken := List.length_pos_iff.mpr hnonempty
    rw [List.length_append] at hfuel
    rcases Nat.exists_eq_succ_of_ne_zero (Nat.ne_of_gt (Nat.zero_lt_of_lt hfuel)) with ⟨n, rfl⟩
    rw [List.append_assoc]
    exact hread n _ _ (h.reads n rest (by omega))

/-- What is read up to a quote is the body of a string, with what it decodes to. -/
theorem readCharacters_sound {fuel : Nat} {cs decoded tail : List Char}
    (h : readCharacters fuel cs = .ok (decoded, tail)) :
    ∃ body, cs = body ++ '"' :: tail ∧ Decodes body decoded := by
  -- on the steps of the reader, each of which takes a character or an escape
  induction fuel generalizing cs decoded with
  | zero => simp [readCharacters, stopHere] at h
  | succ fuel ih =>
      rcases cs with _ | ⟨c, cs⟩
      · simp [readCharacters, stopHere] at h
      rw [readCharacters] at h
      split at h
      · next hquote =>
        -- the closing quote
        obtain ⟨rfl, rfl⟩ : [] = decoded ∧ cs = tail := by simpa using h
        exact ⟨[], by simp [hquote], .nil⟩
      · next hquote =>
        split at h
        · next hslash =>
          subst hslash
          rcases bind_ok_iff.mp h with ⟨⟨x, afterEscape⟩, hescape, hmore⟩
          rcases bind_ok_iff.mp hmore with ⟨⟨others, last⟩, hothers, hlast⟩
          obtain ⟨rfl, rfl⟩ : x :: others = decoded ∧ last = tail := by simpa using hlast
          rcases readEscape_sound hescape with ⟨taken, hcs, htaken, hread⟩
          rcases ih hothers with ⟨body, hafter, hbody⟩
          refine ⟨'\\' :: taken ++ body, by simp [hcs, hafter], ?_⟩
          apply hbody.front htaken (by simp) (by simp)
          intro steps more result hresult
          simp [readCharacters, hread, hresult]
        · next hslash =>
          split at h
          · simp [stopNext] at h
          · next hcontrol =>
            rcases bind_ok_iff.mp h with ⟨⟨others, last⟩, hothers, hlast⟩
            obtain ⟨rfl, rfl⟩ : c :: others = decoded ∧ last = tail := by simpa using hlast
            rcases ih hothers with ⟨body, hcs, hbody⟩
            have hline : c ≠ '\n' := by
              rintro rfl
              exact hcontrol (by decide)
            refine ⟨[c] ++ body, by simp [hcs], ?_⟩
            apply hbody.front (passes_plain hquote hslash hline) (by simp) fun _ => rfl
            intro steps more result hresult
            simp [readCharacters, hquote, hslash, hcontrol, hresult]

/-- The characters between the quotes of a string, and the text that they write. -/
structure Quoted where
  body : List Char
  text : String
  /-- The string is read up to its closing quote, whatever follows. -/
  reads : ∀ rest, readString (body ++ '"' :: rest) = .ok (text, rest)

namespace Quoted

/-- The string with its quotes. -/
def written (string : Quoted) : List Char :=
  '"' :: string.body ++ ['"']

/-- What the reader makes of the front of a text is a string of its own. -/
theorem ofRead {cs tail : List Char} {text : String} (h : readString cs = .ok (text, tail)) :
    ∃ string : Quoted, string.text = text ∧ cs = string.body ++ '"' :: tail := by
  rcases bind_ok_iff.mp h with ⟨⟨decoded, after⟩, hread, hlast⟩
  have hpair : String.ofList decoded = text ∧ after = tail := by simpa using hlast
  rcases readCharacters_sound hread with ⟨body, hcs, hbody⟩
  have hreads : ∀ rest, readString (body ++ '"' :: rest) = .ok (text, rest) := by
    intro rest
    have hlength : body.length < (body ++ '"' :: rest).length + 1 := by
      rw [List.length_append]
      omega
    have hsteps := hbody.reads ((body ++ '"' :: rest).length + 1) rest hlength
    simp only [readString, hsteps, ok_bind, pure_ok_iff, hpair.1]
  exact ⟨⟨body, text, hreads⟩, rfl, by rw [hcs, hpair.2]⟩

/-- The scan passes over the characters of a string, and decodes them to the same text. -/
theorem passes_and_decodes (string : Quoted) :
    Passes string.body ∧ decodeBody string.body = .ok string.text := by
  have hreads := string.reads []
  rcases bind_ok_iff.mp hreads with ⟨⟨decoded, after⟩, hread, hlast⟩
  have hpair : String.ofList decoded = string.text ∧ after = [] := by simpa using hlast
  rcases readCharacters_sound hread with ⟨body, hcs, hbody⟩
  obtain rfl : body = string.body := by
    rw [hpair.2] at hcs
    exact (List.append_cancel_right hcs).symm
  refine ⟨hbody.passes, ?_⟩
  unfold decodeBody
  split
  · simp [readAll, hreads, skipSpace]
  · next hno =>
    rw [← hpair.1, hbody.plain (by simpa using hno)]

/-- The scan reads the same text as the reader and stops at the same quote, in the same line. -/
theorem readString_place (string : Quoted) (line : Nat) (rest : List Char) :
    Place.readString ⟨string.written ++ rest, line⟩ = .ok (string.text, ⟨rest, line⟩) := by
  have hclose := closeString_of_passes string.passes_and_decodes.1 line rest
  simp [Place.readString, written, hclose, string.passes_and_decodes.2]

end Quoted

end TemplateAudit.Json
