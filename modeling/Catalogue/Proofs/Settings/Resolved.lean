import Catalogue.Proofs.Files.Ancestors

/-! # Where paths in settings lead

A path in settings leads to the home directory or below it when it begins with a tilde, and to the
directory that it is seen from or below it otherwise, unless it begins at the root. What follows a
tilde and its slash can begin at the root as well, and leads out of the home directory then. -/

namespace Catalogue.Path

variable {home dir p : Path} {text rest : String}

/-! ## The leading tilde -/

theorem expandHome?_home (home : Option Path) (rest : String) :
    expandHome? home ("~/" ++ rest) = home.map fun dir => dir.join ⟨rest⟩ := by
  have htext : ("~/" ++ rest).toList = '~' :: '/' :: rest.toList := by
    rw [String.toList_append]
    rfl
  rw [expandHome?, htext]
  simp only [String.ofList_toList]

theorem expandHome?_other (home : Option Path) (htilde : text ≠ "~")
    (hhome : ∀ rest, text ≠ "~/" ++ rest) : expandHome? home text = some ⟨text⟩ := by
  unfold expandHome?
  split
  · next heq => exact absurd (String.toList_inj.mp heq) htilde
  · next rest heq =>
      refine absurd (String.toList_inj.mp ?_) (hhome (String.ofList rest))
      simp [heq]
  · rfl

/-! ## Where paths lead -/

/-- Where a path leads, by how its text begins. -/
inductive LeadsTo (home dir : Path) : String → Path → Prop where
  | tilde : LeadsTo home dir "~" home
  | belowHome {rest : String} {p : Path} (hrest : isAbsolute ⟨rest⟩ = false)
      (h : p.isBelow home = true) : LeadsTo home dir ("~/" ++ rest) p
  | outOfHome {rest : String} (hrest : isAbsolute ⟨rest⟩ = true) :
      LeadsTo home dir ("~/" ++ rest) ⟨rest⟩
  | fromRoot {text : String} (htext : isAbsolute ⟨text⟩ = true) : LeadsTo home dir text ⟨text⟩
  | belowDir {text : String} {p : Path} (htilde : text ≠ "~") (hhome : ∀ rest, text ≠ "~/" ++ rest)
      (htext : isAbsolute ⟨text⟩ = false) (h : p.isBelow dir = true) : LeadsTo home dir text p

/-- What begins with a tilde and a slash leads to the home directory or below it, unless what
follows them begins at the root. -/
theorem leadsTo_home (hhome : home.isAbsolute = true) (rest : String) :
    LeadsTo home dir ("~/" ++ rest) (home.join ⟨rest⟩) := by
  cases hrest : isAbsolute ⟨rest⟩ with
  | true =>
      rw [join_of_isAbsolute hrest]
      exact .outOfHome hrest
  | false => exact .belowHome hrest (isBelow_join hhome hrest)

theorem leadsTo_other (hdir : dir.isAbsolute = true) (htilde : text ≠ "~")
    (hhome : ∀ rest, text ≠ "~/" ++ rest) : LeadsTo home dir text (dir.join ⟨text⟩) := by
  cases htext : isAbsolute ⟨text⟩ with
  | true =>
      rw [join_of_isAbsolute htext]
      exact .fromRoot htext
  | false => exact .belowDir htilde hhome htext (isBelow_join hdir htext)

/-- Once the home directory is known, every path in settings leads to an absolute path, which
depends on how its text begins. -/
theorem resolve_leadsTo (hhome : home.isAbsolute = true) (hdir : dir.isAbsolute = true)
    (text : String) :
    ∃ p, resolve? (some home) dir text = some p ∧
      p.isAbsolute = true ∧ LeadsTo home dir text p := by
  by_cases htilde : text = "~"
  · have hresolve : resolve? (some home) dir "~" = some (dir.join home) := rfl
    rw [join_of_isAbsolute hhome] at hresolve
    exact htilde ▸ ⟨home, hresolve, hhome, .tilde⟩
  by_cases htext : ∃ rest, text = "~/" ++ rest
  · obtain ⟨rest, rfl⟩ := htext
    have habsolute : (home.join ⟨rest⟩).isAbsolute = true := isAbsolute_join hhome
    refine ⟨home.join ⟨rest⟩, ?_, habsolute, leadsTo_home hhome rest⟩
    rw [resolve?, expandHome?_home, Option.map_some, Option.map_some, join_of_isAbsolute habsolute]
  · rw [not_exists] at htext
    refine ⟨dir.join ⟨text⟩, ?_, isAbsolute_join hdir, leadsTo_other hdir htilde htext⟩
    rw [resolve?, expandHome?_other _ htilde htext, Option.map_some]

/-- Steps up and a further tilde are steps like any others. -/
theorem resolve_leadsTo_dots :
    resolve? (some ⟨"/home/reader"⟩) ⟨"/srv/books/"⟩ "~/../~" = some ⟨"/home/reader/../~"⟩ ∧
      isAbsolute ⟨"/home/reader/../~"⟩ = true ∧
      LeadsTo ⟨"/home/reader"⟩ ⟨"/srv/books/"⟩ "~/../~" ⟨"/home/reader/../~"⟩ := by
  obtain ⟨p, hp, habsolute, hleads⟩ :=
    @resolve_leadsTo ⟨"/home/reader"⟩ ⟨"/srv/books/"⟩ rfl rfl "~/../~"
  have hvalue : resolve? (some ⟨"/home/reader"⟩) ⟨"/srv/books/"⟩ "~/../~" =
      some ⟨"/home/reader/../~"⟩ := by decide +kernel
  cases hp.symm.trans hvalue
  exact ⟨hvalue, habsolute, hleads⟩

/-- A second slash after the tilde leads away from the home directory. -/
theorem resolve_not_below_home :
    isAbsolute ⟨"/home/reader"⟩ = true ∧ isAbsolute ⟨"/srv/books"⟩ = true ∧
      resolve? (some ⟨"/home/reader"⟩) ⟨"/srv/books"⟩ ("~/" ++ "/x") = some ⟨"/x"⟩ ∧
      isBelow ⟨"/x"⟩ ⟨"/home/reader"⟩ = false := by
  decide +kernel

end Catalogue.Path
