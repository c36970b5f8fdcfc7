import RenderSource.Proofs.Buffer.Stamping
import RenderSource.Proofs.Renderer.Compiled
import RenderSource.Proofs.Renderer.Hiding
/-!
Stamping a version is exact. In the library one literal takes the place of another, in one row that reads back
as the version; in the source of a buffer no other row depends on it; and a renderer joins it to its output as
it was given.
-/
namespace RenderSource

namespace Library

def beforeVersion : Text := Text.ofRows frontRows ++ newline :: versionFront

def behindVersion : Text := newline :: Text.ofRows backRows

theorem stamped_around (v : Option Text) :
    stamped v = beforeVersion ++ (v.getD placeholder).quote ++ behindVersion := by
  rw [stamped_eq, ofRows_version, beforeVersion, behindVersion, List.append_assoc, List.append_assoc,
    List.append_assoc]

/-- The library with a version is that without one but for a literal, which reads back as the version, in the
row that assigns it. -/
structure Bears (v : Text) : Prop where
  unversioned : stamped none = beforeVersion ++ placeholder.quote ++ behindVersion
  versioned : stamped (some v) = beforeVersion ++ v.quote ++ behindVersion
  unversionedRows : (stamped none).rows = frontRows ++ (versionFront ++ placeholder.quote) :: backRows
  versionedRows : (stamped (some v)).rows = frontRows ++ (versionFront ++ v.quote) :: backRows
  oneRow : newline ∉ v.quote
  reads : Term.readAll v.quote = .ok (.text v)

theorem bears (v : Text) : Bears v := by
  have fit : v.quote.Fit := Text.quote_fit v
  exact ⟨stamped_around none, stamped_around (some v), rows_stamped none, rows_stamped (some v), fit.no_newline,
    Term.readAll_spelled (.text v)⟩

end Library

theorem Piece.texts_version {st : Store} {libraryVersion : Text} {value : Value} (ps qs : List Piece) :
    texts st libraryVersion value (ps ++ .version :: qs) = (do
      let t ← texts st libraryVersion value ps
      return t ++ libraryVersion ++ (← texts st libraryVersion value qs)) := by
  rw [texts_append]
  simp [texts, text]

namespace Renderer

/-- Renderers join a version to their output as it is, between the texts of the pieces around it; one of nothing
but the version loads, however wide the blanks are. -/
structure ShowsVersion (c : Config) (v : Text) : Prop where
  joined : ∀ ps qs filename st₀ st₁ r, (∀ p ∈ ps ++ .version :: qs, p.CallFree) →
    ofBuffer (Buffer.ofBody c (ps ++ .version :: qs)) filename st₀ = (.ok r, st₁) → ∀ value st,
      (r.render value st).1 = ((do
        let t ← Piece.texts st₀ v value ps
        return t ++ v ++ (← Piece.texts st₀ v value qs)) st).1.map .ofText
  alone : Placed.NamesFree c → c.functionName.normalName = c.functionName → ∀ width : Nat,
    c.indentWidth.asInt? = some (width : Int) → width < memoryLimit → ∀ st₀, ∃ r st₁,
      ofBuffer (Buffer.ofBody c [.version]) standardFilename st₀ = (.ok r, st₁) ∧
        ∀ value st, (r.render value st).1 = .ok (.ofText v)

variable {c : Config} {v : Text}

theorem version_loads (accepted : c.Accepted) (names : Placed.NamesFree c)
    (normal : c.functionName.normalName = c.functionName) {width : Nat}
    (whole : c.indentWidth.asInt? = some (width : Int)) (small : width < memoryLimit) (st₀ : Store) :
    ofBuffer (Buffer.ofBody c [.version]) standardFilename st₀ =
      (.ok (ofStatements c width (c.statements st₀ [.version]) st₀.frames.size),
        st₀.withFrames (st₀.frames.push (Program.loadedFrame c c.functionName))) := by
  have few : (Piece.term st₀ c.dataName .version).nesting ≤ Statement.sureNesting :=
    (by decide : (Term.call (.name (wording "to_text")) [.name (wording "RENDERER_VERSION")] []).nesting ≤ _)
  have room := Piece.HasSource.fits (p := .version) accepted trivial trivial few (by decide : 1 < Placed.blockLimit)
  exact ofBody_loads_written accepted names normal (by decide : standardFilename.any isNull = false) whole small
    (List.forall_mem_singleton.mpr trivial) (List.forall_mem_singleton.mpr room)
    (List.forall_mem_singleton.mpr trivial)

theorem render_version (clear : c.Clear) (version : c.version = some v) {ps qs : List Piece} {filename : Text}
    {st₀ st₁ : Store} {r : Renderer} (free : ∀ p ∈ ps ++ .version :: qs, p.CallFree)
    (loaded : ofBuffer (Buffer.ofBody c (ps ++ .version :: qs)) filename st₀ = (.ok r, st₁)) (value : Value)
    (st : Store) : (r.render value st).1 = ((do
      let t ← Piece.texts st₀ v value ps
      return t ++ v ++ (← Piece.texts st₀ v value qs)) st).1.map .ofText := by
  obtain ⟨g, rendered⟩ := ofBody_render clear free loaded value st
  have given : c.libraryVersion = v := by
    rw [Config.libraryVersion, version]
    rfl
  rw [rendered, given, Piece.texts_version]

theorem showsVersion (clear : c.Clear) (version : c.version = some v) : ShowsVersion c v := by
  refine ⟨fun _ _ _ _ _ _ free loaded => render_version clear version free loaded, ?_⟩
  intro names normal width whole small st₀
  have loaded := version_loads clear.toAccepted names normal whole small st₀
  refine ⟨_, _, loaded, fun value st => ?_⟩
  rw [@render_version c v clear version [] [] _ _ _ _ (List.forall_mem_singleton.mpr trivial) loaded]
  exact congrArg (Except.ok ∘ Value.ofText) (List.append_nil v)

/-- Stamping is exact for every version: the library bears it, no other row that a buffer writes depends on it,
and with names that are clear of those of the library a renderer shows it as it was given. -/
theorem version_exact (v : Text) : Library.Bears v ∧
    (∀ (st : Store) (c : Config) (os : List Operation),
      Stamps fun w => ((Buffer.ofConfig { c with version := w }).operateAll st os).1.rows st) ∧
    ∀ c : Config, c.Clear → c.version = some v → ShowsVersion c v :=
  ⟨Library.bears v, Buffer.stamps_rows, fun _ clear version => showsVersion clear version⟩

/-- A version that holds the placeholder, quotes and all, a backslash, the end of a row and half a pair. -/
def crooked : Text := Library.placeholder.quote ++ wording "\\\n" ++ [.surrogate ⟨0x400, by decide⟩]

def crookedConfig : Config := { Config.standard with indentWidth := .ofInt 1, version := some crooked }

theorem version_exact_crooked :
    Config.check Store.empty { indentWidth := .ofInt 1, version := .ofText crooked } = .ok crookedConfig ∧
      ∃ r st₁, ofBuffer (Buffer.ofBody crookedConfig [.version]) standardFilename Store.empty = (.ok r, st₁) ∧
        ∀ value st, (r.render value st).1 = .ok (.ofText crooked) := by
  have checked : Config.check Store.empty { indentWidth := .ofInt 1, version := .ofText crooked } =
      .ok crookedConfig := by decide +kernel
  have shows := (version_exact crooked).2.2 crookedConfig (Config.clear_standard checked) rfl
  exact ⟨checked, shows.alone (Config.namesFree_standard checked) (Config.normal_standard checked) 1 rfl (by decide)
    Store.empty⟩

def hidingVersion : Config :=
  { Config.standard with
    accumulator := wording "RENDERER_VERSIO" ++ [.scalar (Char.ofNat 0xFF2E)], version := some (wording "2") }

theorem hidingVersion_empties : hidingVersion.Empties "RENDERER_VERSION" where
  same := by decide +kernel
  bound := by decide
  apart := by decide
  data := (Config.clear_standard Config.checked_standard).dataName'

theorem hidingVersion_render : ((ofStatements hidingVersion 4 (hidingVersion.statements Store.empty [.version])
    0).render .none ⟨#[], #[Program.loadedFrame hidingVersion hidingVersion.functionName]⟩).1 = .ok (.ofText []) :=
  render_unversioned hidingVersion_empties
    (loaded_free (Config.clear_standard Config.checked_standard).functionName' _) .none

/-- With an output variable that hides the version, a renderer does not show it. -/
theorem version_exact_hidden :
    Config.check Store.empty { accumulator := .ofText hidingVersion.accumulator, version := .ofText (wording "2") } =
        .ok hidingVersion ∧
      ∃ r st₁, ofBuffer (Buffer.ofBody hidingVersion [.version]) standardFilename Store.empty = (.ok r, st₁) ∧
        (r.render .none st₁).1 = .ok (.ofText []) := by
  have checked : Config.check Store.empty
      { accumulator := .ofText hidingVersion.accumulator, version := .ofText (wording "2") } =
        .ok hidingVersion := by decide +kernel
  have standard := Config.checked_standard
  have free := Config.namesFree_standard standard
  have names := hidingVersion_empties.namesFree (by decide) free.functionName free.dataName
  have normal := Config.normal_standard standard
  have whole : hidingVersion.indentWidth.asInt? = some ((4 : Nat) : Int) := rfl
  have loaded := version_loads (Config.check_accepted checked) names normal whole (by decide) Store.empty
  exact ⟨checked, _, _, loaded, hidingVersion_render⟩

end Renderer

end RenderSource
