import HistoryTree.Proofs.Url.Segments
import HistoryTree.Source.Service
import Mathlib.Data.List.DropRight
import Mathlib.Data.List.Forall2

/-!
# The addresses of histories

A service is asked for a history at a URL made from its base and the ids of the execution.  The
ids come from other histories, and may be any texts.  The URL is always there, and it leads to the
execution exactly if both ids are whole: the segments behind the base are then the five of the
scheme, each id a segment that spells it, and no two executions share a URL
(`Service.historyUrl_leadsTo_iff`).  An id that is a name of a place or holds a tab or a line end
gets lost on the way, and executions share a URL (`Service.depot_loses_ids`).
-/

namespace HistoryTree

/-- Both ids of an execution become segments as they stand. -/
def Execution.IsWhole (x : Execution) : Prop :=
  Url.IsWhole x.id.toList ∧ Url.IsWhole x.run.toList

namespace Url

/-- The texts that stand behind a base on the way to the history of an execution. -/
def wayTo (x : Execution) : List (List Char) :=
  ["executions", x.id, "runs", x.run, "history"].map String.toList

variable {special inFile : Bool} {p q base : Path} {x y : Execution} {w : String}

/-- A path leads from a base to the history of an execution: behind the base stand the segments
that spell the way, and nothing else. -/
def Path.LeadsTo (base q : Path) (x : Execution) : Prop :=
  ∃ segments, q = base ++ segments ∧ List.Forall₂ Spells segments (wayTo x)

/-- A path leads to one execution only. -/
theorem Path.LeadsTo.unique (hx : base.LeadsTo q x) (hy : base.LeadsTo q y) : x = y := by
  obtain ⟨segments, rfl, hx⟩ := hx
  obtain ⟨segments', hsame, hy⟩ := hy
  obtain rfl := List.append_cancel_left hsame
  have hway : wayTo x = wayTo y :=
    List.right_unique_forall₂' (fun _ _ _ hs ht => bytes_injective (hs.symm.trans ht)) hx hy
  simp only [wayTo, List.map_cons, List.cons.injEq, String.toList_inj] at hway
  obtain ⟨-, hid, -, hrun, -⟩ := hway
  cases x
  cases y
  rw [Execution.mk.injEq]
  exact ⟨hid, hrun⟩

theorem isWord_of_mem (hw : w ∈ ["executions", "runs", "history"]) : IsWord special w.toList := by
  simp only [List.mem_cons, List.not_mem_nil, or_false] at hw
  rcases hw with rfl | rfl | rfl <;> cases special <;>
    exact ⟨⟨by decide, by decide, kept_eq_self_iff.1 rfl⟩, by decide, by decide⟩

/-- Segments behind a base lead to an execution exactly if they spell the words of its address. -/
theorem Path.leadsTo_append_iff {segments : Path} :
    base.LeadsTo (base ++ segments) x ↔ List.Forall₂ Spells segments (wayTo x) := by
  constructor
  · rintro ⟨segments', hsame, hspells⟩
    rwa [List.append_cancel_left hsame]
  · exact fun hspells => ⟨segments, rfl, hspells⟩

theorem Path.LeadsTo.length_eq (h : base.LeadsTo q x) : q.length = base.length + 5 := by
  obtain ⟨segments, rfl, hspells⟩ := h
  rw [List.length_append, hspells.length_eq]
  rfl

/-- The way to a history, put behind a path, leads to the execution if both ids are whole, and only
then. -/
theorem Path.leadsTo_iff (hp : p.Clear inFile) (x : Execution) :
    p.stem.LeadsTo ((wayTo x).foldl (push special inFile) p) x ↔ x.IsWhole := by
  have hexecutions : IsWord special "executions".toList := isWord_of_mem (by simp)
  have hruns : IsWord special "runs".toList := isWord_of_mem (by simp)
  have hhistory : IsWord special "history".toList := isWord_of_mem (by simp)
  have hclear : Clear inFile (p.stem ++ [segmentOf special "executions".toList]) :=
    clear_append_segmentOf hp hexecutions
  simp only [wayTo, List.map_cons, List.map_nil, List.foldl_cons, List.foldl_nil]
  rw [push_word hp hexecutions]
  obtain ⟨q, hid, hq, hspells⟩ := push_push hclear hexecutions hruns x.id.toList
  rw [hid]
  obtain ⟨r, hrun, -, hspells'⟩ := push_push hq hruns hhistory x.run.toList
  rw [hrun]
  obtain ⟨i, rfl, hi⟩ | ⟨hwhole, hlength⟩ := hspells
  · obtain ⟨j, rfl, hj⟩ | ⟨hwhole, hlength'⟩ := hspells'
    · simp only [List.append_assoc, leadsTo_append_iff]
      simp [wayTo, hi, hj, spells_segmentOf, Execution.IsWhole]
    · refine iff_of_false (fun h => ?_) (fun h => hwhole h.2)
      have hfive := h.length_eq
      simp only [List.length_append, List.length_cons, List.length_nil] at hfive hlength'
      omega
  · refine iff_of_false (fun h => ?_) (fun h => hwhole h.1)
    have hfive := h.length_eq
    have hlength' : r.length ≤ q.length + 2 := by
      obtain ⟨j, rfl, -⟩ | ⟨-, hlength'⟩ := hspells'
      · simp
      · simp only [List.length_append, List.length_singleton] at hlength'
        omega
    simp only [List.length_append, List.length_cons, List.length_nil] at hfive hlength
    omega

/-! ## Bases -/

/-- A path that was trimmed begins with no empty segment, or has no other one. -/
theorem Path.trimStart_cases (p : Path) : p.trimStart = [[]] ∨ p.trimStart.head? ≠ some [] := by
  rw [trimStart]
  split
  · exact .inl rfl
  · rename_i t rest h
    right
    rintro ⟨⟩
    have hhead := List.head?_dropWhile_not List.isEmpty p
    rw [h] at hhead
    exact absurd hhead (by simp)

theorem Path.clear_popIfEmpty (hp : inFile = true → p = [[]] ∨ p.head? ≠ some []) :
    p.popIfEmpty.Clear inFile := by
  intro hfile
  have hhead : p.popIfEmpty = [[]] ∨ p.popIfEmpty.head? ≠ some [] := by
    rw [popIfEmpty]
    split
    · rename_i hpop
      rcases hp hfile with rfl | hp
      · exact absurd hpop.1 (by simp)
      · right
        cases p with
        | nil => exact absurd hpop.1 (by simp)
        | cons s rest =>
          cases rest with
          | nil => exact absurd hpop.1 (by simp)
          | cons t rest => exact hp
    · exact hp hfile
  rw [stem]
  split
  · simp
  · exact hhead.resolve_left ‹_›

theorem scheme_of_ofAuthority {scheme s : List Char} {u : Url} (h : ofAuthority scheme s = .ok u) :
    u.scheme = scheme := by
  simp only [ofAuthority, bind, Except.bind, pure, Except.pure, throw, throwThe,
    MonadExceptOf.throw] at h
  repeat' split at h
  all_goals cases h
  all_goals rfl

theorem exists_of_ofFile {s : List Char} {u : Url} (h : ofFile s = .ok u) :
    ∃ host t, u = ofHierarchy "file".toList (some host) none t := by
  rw [ofFile.eq_def] at h
  split at h
  · rename_i a b rest
    split at h
    · simp only at h
      split at h
      · cases h
        exact ⟨_, _, rfl⟩
      · generalize Host.parse _ = host at h
        cases host with
        | error e => cases h
        | ok host =>
          cases h
          exact ⟨_, _, rfl⟩
    · cases h
      exact ⟨_, _, rfl⟩
  · cases h
    exact ⟨_, _, rfl⟩

/-- The path of a file URL has no empty segment in front, unless it is the only one. -/
theorem head_of_ofFile {s : List Char} {u : Url} (h : ofFile s = .ok u)
    (hp : u.path = .segments p) : p = [[]] ∨ p.head? ≠ some [] := by
  obtain ⟨host, t, rfl⟩ := exists_of_ofFile h
  have hspecial : isSpecial "file".toList = true := by decide
  have hfile : isFile "file".toList = true := by decide
  simp only [ofHierarchy, hspecial, Bool.not_true, Bool.and_false, if_neg Bool.false_ne_true,
    segments, hfile, if_true, UrlPath.segments.injEq] at hp
  rw [← hp]
  exact Path.trimStart_cases _

/-- What is put behind the base of a service stays behind it. -/
theorem clear_of_parse {s : List Char} {u : Url} (h : parse s = .ok u)
    (hp : u.path = .segments p) : p.popIfEmpty.Clear (isFile u.scheme) := by
  refine Path.clear_popIfEmpty fun hfile => ?_
  rw [parse] at h
  split at h
  · cases h
  · rename_i scheme rest _
    by_cases hscheme : isFile scheme = true
    · rw [if_pos hscheme] at h
      exact head_of_ofFile h hp
    · exfalso
      rw [if_neg hscheme] at h
      refine hscheme ?_
      split at h
      · rwa [scheme_of_ofAuthority h] at hfile
      · split at h
        · rwa [scheme_of_ofAuthority h] at hfile
        · cases h
          exact hfile
        · cases h
          exact hfile

end Url

/-! ## The URL of a history -/

/-- The root of a service is its base as it is given, without all slashes at the end. -/
theorem Service.base_eq_root_append (s : Service) :
    (∃ n, s.base.toList = s.root.toList ++ List.replicate n '/') ∧
      s.root.toList.getLast? ≠ some '/' := by
  have hroot : s.root.toList = s.base.toList.rdropWhile (· = '/') := String.toList_ofList
  rw [hroot]
  constructor
  · refine ⟨(s.base.toList.rtakeWhile (· = '/')).length, ?_⟩
    have hslashes : s.base.toList.rtakeWhile (· = '/')
        = List.replicate (s.base.toList.rtakeWhile (· = '/')).length '/' :=
      List.eq_replicate_of_mem fun c hc => by simpa using List.mem_rtakeWhile_imp hc
    rw [← hslashes, List.rdropWhile_append_rtakeWhile]
  · intro hlast
    have hne : s.base.toList.rdropWhile (· = '/') ≠ [] := by
      intro hnil
      rw [hnil] at hlast
      cases hlast
    have hslash := List.rdropWhile_last_not (· = '/') s.base.toList hne
    rw [List.getLast?_eq_some_getLast hne] at hlast
    exact hslash (by simpa using Option.some.inj hlast)

/-- Every base that can carry a path gives every execution a URL below it.  The URL leads to the
execution exactly if both ids are whole, and then no other such execution has it. -/
theorem Service.historyUrl_leadsTo_iff {s : Service} {u : Url} {p : Url.Path}
    (hu : Url.parse s.root.toList = .ok u) (hp : u.path = .segments p) :
    (∀ x, ∃ q, s.historyUrl x = .ok { u with path := .segments q } ∧
      (p.popIfEmpty.stem.LeadsTo q x ↔ x.IsWhole)) ∧
    ∀ x y, x.IsWhole → y.IsWhole → s.historyUrl x = s.historyUrl y → x = y := by
  have haddress : ∀ x, ∃ q, s.historyUrl x = .ok { u with path := .segments q } ∧
      (p.popIfEmpty.stem.LeadsTo q x ↔ x.IsWhole) := by
    intro x
    refine ⟨(Url.wayTo x).foldl (Url.Path.push (Url.isSpecial u.scheme) (Url.isFile u.scheme))
      p.popIfEmpty, ?_, Url.Path.leadsTo_iff (Url.clear_of_parse hu hp) x⟩
    simp only [historyUrl, hu, Url.extend?, hp]
    rfl
  refine ⟨haddress, fun x y hx hy hsame => ?_⟩
  obtain ⟨q, hq, hleads⟩ := haddress x
  obtain ⟨r, hr, hleads'⟩ := haddress y
  rw [hq, hr] at hsame
  simp only [Except.ok.injEq, Url.mk.injEq, UrlPath.segments.injEq, true_and, and_true] at hsame
  subst hsame
  exact (hleads.2 hx).unique (hleads'.2 hy)

/-! ### A service below a path of its own -/

namespace Service

/-- A service whose base has a segment, and a slash behind it. -/
def depot : Service := ⟨"http://svc.test/api/", none⟩

/-- A URL of that service. -/
def depotUrl (segments : List String) : Url where
  scheme := "http".toList
  host := some (.domain "svc.test".toList)
  port := none
  path := .segments (segments.map String.toList)
  query := none
  fragment := none

theorem eq_ok_of_toOption {ε α : Type} {result : Except ε α} {a : α}
    (h : result.toOption = some a) : result = .ok a := by
  cases result with
  | error e => cases h
  | ok b => exact congrArg Except.ok (Option.some.inj h)

theorem parse_depot : Url.parse depot.root.toList = .ok (depotUrl ["api"]) :=
  eq_ok_of_toOption (by decide +kernel)

/-- Ids with reserved characters are whole. -/
theorem depot_addresses_reserved :
    Execution.IsWhole ⟨"eats/order#7", "r?1"⟩ ∧
    ∃ q, depot.historyUrl ⟨"eats/order#7", "r?1"⟩ =
        .ok { depotUrl ["api"] with path := .segments q } ∧
      Url.Path.LeadsTo ["api".toList] q ⟨"eats/order#7", "r?1"⟩ := by
  have hwhole : Execution.IsWhole ⟨"eats/order#7", "r?1"⟩ :=
    ⟨⟨by decide, by decide, Url.kept_eq_self_iff.1 rfl⟩, by decide, by decide,
      Url.kept_eq_self_iff.1 rfl⟩
  obtain ⟨q, hq, hleads⟩ := (historyUrl_leadsTo_iff parse_depot rfl).1 ⟨"eats/order#7", "r?1"⟩
  exact ⟨hwhole, q, hq, hleads.2 hwhole⟩

/-- Ids that are names of places get lost, and so does a tab: executions share a URL, which does
not lead to them. -/
theorem depot_loses_ids :
    let lost := ["api", "executions", "runs", "r1", "history"]
    let found := ["api", "executions", "ab", "runs", "r1", "history"]
    (depot.historyUrl ⟨".", "r1"⟩ = .ok (depotUrl lost) ∧
      depot.historyUrl ⟨"..", "r1"⟩ = .ok (depotUrl lost) ∧
      ¬ Url.Path.LeadsTo ["api".toList] (lost.map String.toList) ⟨".", "r1"⟩) ∧
    depot.historyUrl ⟨"a\tb", "r1"⟩ = .ok (depotUrl found) ∧
      depot.historyUrl ⟨"ab", "r1"⟩ = .ok (depotUrl found) := by
  refine ⟨⟨eq_ok_of_toOption ?_, eq_ok_of_toOption ?_, fun h => ?_⟩, eq_ok_of_toOption ?_,
    eq_ok_of_toOption ?_⟩
  · decide +kernel
  · decide +kernel
  · exact absurd h.length_eq (by decide)
  · decide +kernel
  · decide +kernel

end Service

end HistoryTree
