import ClusterMonitor.Config.Source
import ClusterMonitor.Proofs.Json.RoundTrip
import ClusterMonitor.Proofs.Text.Utf8
import Mathlib.Data.String.Basic

/-!
# Documents in JSON files

A document that was written to a JSON file is the layer that the file contributes. The file is known
as one by its name.

* `Text.splitOn_singleton` — the pieces of a text between signs of a kind.
* `Path.extensionOf?_append` — the extension of a file name.
* `Source.readFile_write` — the document in a file that it was written to.
-/

namespace ClusterMonitor

/-! ## Pieces of a text -/

namespace Text

open String

/-- The pieces from a place on, where one is under way: it is as long as the text from its start to
the place. -/
theorem splitOnAux_singleton (sign : Char) (l m r : List Char) (acc : List String) :
    splitOnAux (ofList (l ++ m ++ r)) (singleton sign) ⟨utf8Len l⟩ ⟨utf8Len l + utf8Len m⟩ 0 acc =
      acc.reverse ++ (List.splitOnPPrepend (· == sign) r m.reverse).map ofList := by
  have hsep : singleton sign = ofList [sign] := by simp
  have hget : Pos.Raw.get (singleton sign) 0 = sign := by
    rw [hsep]
    exact get_of_valid [] [sign]
  have hnext : Pos.Raw.next (singleton sign) 0 = ⟨sign.utf8Size⟩ := by
    rw [hsep]
    simpa [-ofList_cons] using next_of_valid [] sign []
  have hend : Pos.Raw.atEnd (singleton sign) ⟨sign.utf8Size⟩ = true := by
    rw [hsep, ← show utf8Len [sign] = sign.utf8Size by simp]
    exact (atEnd_of_valid [sign] []).mpr rfl
  induction r generalizing l m acc with
  | nil =>
    have hstop : Pos.Raw.atEnd (ofList (l ++ m ++ [])) ⟨utf8Len l + utf8Len m⟩ = true := by
      simpa using atEnd_of_valid (l ++ m) []
    unfold splitOnAux
    rw [if_pos hstop, extract_of_valid l m []]
    simp
  | cons c rest ih =>
    have hplace : utf8Len l + utf8Len m = utf8Len (l ++ m) := by simp
    have hgoes : ¬ Pos.Raw.atEnd (ofList (l ++ m ++ c :: rest)) ⟨utf8Len l + utf8Len m⟩ = true := by
      rw [hplace, atEnd_of_valid]
      exact List.cons_ne_nil c rest
    have hhere : Pos.Raw.get (ofList (l ++ m ++ c :: rest)) ⟨utf8Len l + utf8Len m⟩ = c := by
      rw [hplace, get_of_valid]
      rfl
    have hstep : Pos.Raw.next (ofList (l ++ m ++ c :: rest)) ⟨utf8Len l + utf8Len m⟩ =
        ⟨utf8Len l + utf8Len m + c.utf8Size⟩ := by
      rw [hplace, next_of_valid]
    unfold splitOnAux
    rw [if_neg hgoes, hhere, hget]
    by_cases hc : c = sign
    · -- the piece under way ends before the sign
      subst hc
      have hback : (⟨utf8Len l + utf8Len m + c.utf8Size⟩ : Pos.Raw).unoffsetBy ⟨c.utf8Size⟩ =
          ⟨utf8Len l + utf8Len m⟩ := by
        simp [Pos.Raw.unoffsetBy]
      have hrest := ih (l ++ m ++ [c]) [] (ofList m :: acc)
      simp only [beq_self_eq_true, if_true, hstep, hnext, hend, hback, extract_of_valid]
      simpa [List.splitOnPPrepend_cons_eq_if, Nat.add_assoc] using hrest
    · -- the piece under way has one more character
      have hzero : (⟨utf8Len l + utf8Len m⟩ : Pos.Raw).unoffsetBy 0 = ⟨utf8Len l + utf8Len m⟩ := by
        simp [Pos.Raw.unoffsetBy]
      have hrest := ih l (m ++ [c]) acc
      simp only [beq_iff_eq, hc, if_false, hzero, hstep]
      simpa [List.splitOnPPrepend_cons_eq_if, hc, Nat.add_assoc] using hrest

/-- The pieces of a text between signs of a kind. -/
theorem splitOn_singleton (s : String) (sign : Char) :
    s.splitOn (singleton sign) = (s.toList.splitOn sign).map ofList := by
  have hne : (singleton sign == "") = false := by simp
  have h := splitOnAux_singleton sign [] [] s.toList []
  rw [splitOn, hne]
  simpa [List.splitOn] using h

end Text

/-! ## File names -/

namespace Path

theorem fileName?_eq {name : String} (hslash : '/' ∉ name.toList) (hstep : isStep name = true)
    (hup : name ≠ "..") : fileName? name = some name := by
  have hsegments : segments name = [name] := by
    have hsep : "/" = String.singleton '/' := rfl
    rw [segments, hsep, Text.splitOn_singleton, List.splitOn_eq_singleton hslash]
    simp
  simp [fileName?, steps, hsegments, hstep, hup]

/-- What follows the last dot of a name is its extension, unless the name starts with this dot. -/
theorem extensionOf?_append {name : String} (hne : name ≠ "") {extension : String}
    (hdot : '.' ∉ extension.toList) : extensionOf? (name ++ "." ++ extension) = some extension := by
  have hsep : "." = String.singleton '.' := rfl
  have hpieces : (name ++ "." ++ extension).splitOn "." =
      (name.toList.splitOn '.').map String.ofList ++ [extension] := by
    rw [hsep, Text.splitOn_singleton]
    simp [List.splitOn_append_cons_self, List.splitOn_eq_singleton hdot]
  -- one empty piece before the last dot would be a name without an extension
  have hnamed : (name.toList.splitOn '.').map String.ofList ≠ [""] := by
    intro h
    have hempty : name.toList.splitOn '.' = [[]] := by
      obtain ⟨piece, hpieces, hpiece⟩ := List.map_eq_singleton_iff.mp h
      rw [hpieces, String.ofList_eq_empty_iff.mp hpiece]
    have hname : List.intercalate ['.'] (name.toList.splitOn '.') = name.toList :=
      List.intercalate_splitOn '.'
    rw [hempty] at hname
    exact hne (String.toList_eq_nil_iff.mp hname.symm)
  rw [extensionOf?, hpieces, List.reverse_append]
  simp [hnamed]

end Path

namespace Source

/-- Any name before the ending will do. -/
theorem isJson_append {name : String} (hne : name ≠ "") (hslash : '/' ∉ name.toList) :
    isJson (name ++ ".json") = true := by
  have hlong : ∀ s : String, s.length < 5 → name ++ ".json" ≠ s := by
    rintro s hs rfl
    rw [String.length_append, show ".json".length = 5 from rfl] at hs
    omega
  have hfile : Path.fileName? (name ++ ".json") = some (name ++ ".json") := by
    refine Path.fileName?_eq (by simp [hslash]) ?_ (hlong ".." (by decide))
    simp [Path.isStep, hlong "" (by decide), hlong "." (by decide)]
  have hname : name ++ ".json" = name ++ "." ++ "json" := by
    rw [String.append_assoc]
    rfl
  have hextension : Path.extension? (name ++ ".json") = some "json" := by
    rw [Path.extension?, hfile, Option.bind_some, hname,
      Path.extensionOf?_append hne (by decide)]
  rw [isJson, hextension]
  decide

/-- A document that was written to a JSON file is read from it. -/
theorem readFile_write {s : Surroundings} {path : String} {members : Dict Value}
    (hfile : s.read path = .ok (Text.encode (Json.write (.object members))))
    (hjson : isJson path = true) (hreadable : Json.Readable (.object members) Json.depthLimit) :
    readFile s path = .ok (.object members) := by
  have hread : readJson? (Json.write (.object members)) = some (.object members) := by
    simp only [readJson?, Json.read?_write hreadable]
  simp only [readFile, hfile, Text.decode?_encode, Option.bind_some, hjson, if_true, hread]

end Source

end ClusterMonitor
