import StrategyDesk.Exchange.Http
import StrategyDesk.Proofs.Url.Paths

/-!
# Addresses of configurations

Where a request goes for a configuration that is named by any text. Most names have an address of
their own. Names that differ in tabs and line ends alone share one, and points lead elsewhere: one
or two of them to the collection, and with tabs or line ends beside them to a place without a name.

## Main Definitions

* `ConfigAct` — what is asked of a configuration by its name
* `destination` — the place that a name leads to, as the texts of its segments

## Main Statements

* `WebUrl.text_inj_of_inert` — addresses that differ in the last segments have different texts
* `destination_eq_named_iff`, `destination_eq_collection_iff` — which names lead to their own
  places, and which to the collection
* `ConfigAct.url_request` — the address of a request for a configuration
* `addresses_named_iff` — which texts are addressed exactly, and which names share an address
-/

namespace StrategyDesk

open WebUrl

/-! ## Written addresses -/

namespace WebUrl

variable {base path path' : List String}

/-- Segments without slashes are told apart in a path. -/
theorem intercalate_inj (inert : ∀ segment ∈ path, IsInert segment)
    (inert' : ∀ segment ∈ path', IsInert segment) (some : path ≠ []) (some' : path' ≠ [])
    (same : "/".intercalate path = "/".intercalate path') : path = path' := by
  have noSlash : ∀ {segments : List String}, (∀ segment ∈ segments, IsInert segment) →
      ∀ chars ∈ segments.map String.toList, '/' ∉ chars := by
    intro segments inert chars member
    obtain ⟨segment, here, rfl⟩ := List.mem_map.mp member
    exact inert segment here '/' (by decide)
  have chars := congrArg (List.splitOn '/') (congrArg String.toList same)
  have slash : "/".toList = ['/'] := rfl
  rw [String.toList_intercalate, String.toList_intercalate, slash,
    List.splitOn_intercalate '/' (noSlash inert) (by simpa using some),
    List.splitOn_intercalate '/' (noSlash inert') (by simpa using some')] at chars
  exact List.map_injective_iff.mpr (fun _ _ => String.toList_inj.mp) chars

/-- What stands before the last segments of two paths may be left out. -/
theorem intercalate_append_inj (inert : ∀ segment ∈ path, IsInert segment)
    (inert' : ∀ segment ∈ path', IsInert segment) (some : path ≠ []) (some' : path' ≠ [])
    (same : "/".intercalate (base ++ path) = "/".intercalate (base ++ path')) : path = path' := by
  rcases eq_or_ne base [] with rfl | front
  · exact intercalate_inj inert inert' some some' same
  · rw [String.intercalate_append_of_ne_nil front some,
      String.intercalate_append_of_ne_nil front some'] at same
    exact intercalate_inj inert inert' some some' ((String.append_right_inj _).mp same)

/-- **Addresses that differ in the last segments of their paths have different texts.** -/
theorem text_inj_of_inert {url : WebUrl} (inert : ∀ segment ∈ path, IsInert segment)
    (inert' : ∀ segment ∈ path', IsInert segment) (some : path ≠ []) (some' : path' ≠ []) :
    { url with path := base ++ path }.text = { url with path := base ++ path' }.text ↔
      path = path' := by
  constructor
  · intro same
    have targets := (String.append_right_inj _).mp ((String.append_left_inj _).mp same)
    have paths := (String.append_right_inj _).mp ((String.append_left_inj _).mp targets)
    exact intercalate_append_inj inert inert' some some' paths
  · rintro rfl
    rfl

end WebUrl

/-! ## Names -/

/-- What is asked of a configuration by its name. -/
inductive ConfigAct where
  | read
  | update (yaml : String)
  | delete

/-- The call. -/
def ConfigAct.call : ConfigAct → String → Call
  | read, name => .getConfig name
  | update yaml, name => .updateConfig name yaml
  | delete, name => .deleteConfig name

/-- The place that a name leads to, below the address of the service: the texts of the segments of
its path. -/
def destination (name : String) : List String :=
  if name ∈ [".", ".."] then ["api", "configs"]
  else if keptChars name = ['.', '.'] then ["api", ""]
  else if keptChars name = ['.'] then ["api", "configs", ""]
  else ["api", "configs", String.ofList (keptChars name)]

theorem destination_ne_nil (name : String) : destination name ≠ [] := by
  unfold destination
  split_ifs <;> exact List.cons_ne_nil _ _

theorem keptChars_ofList_keptChars (text : String) :
    keptChars (String.ofList (keptChars text)) = keptChars text := by
  simp [keptChars]

/-- The texts of a destination have no tabs and line ends. -/
theorem keptChars_of_mem_destination (name : String) :
    ∀ text ∈ destination name, keptChars text = text.toList := by
  have kept : keptChars (String.ofList (keptChars name)) =
      (String.ofList (keptChars name)).toList := by
    rw [keptChars_ofList_keptChars, String.toList_ofList]
  unfold destination
  split_ifs
  · decide
  · decide
  · decide
  · simp only [List.forall_mem_cons, List.not_mem_nil, false_imp_iff, implies_true, and_true]
    exact ⟨by decide, by decide, kept⟩

/-- Texts without tabs and line ends are determined by their segments. -/
theorem map_encodeSegment_inj {texts texts' : List String}
    (kept : ∀ text ∈ texts, keptChars text = text.toList)
    (kept' : ∀ text ∈ texts', keptChars text = text.toList)
    (same : texts.map encodeSegment = texts'.map encodeSegment) : texts = texts' := by
  induction texts generalizing texts' with
  | nil => exact (List.map_eq_nil_iff.mp same.symm).symm
  | cons text texts ih =>
      cases texts' with
      | nil => cases same
      | cons text' texts' =>
          obtain ⟨first, others⟩ := List.cons.inj same
          rw [List.forall_mem_cons] at kept kept'
          have chars := encodeSegment_eq_iff.mp first
          rw [kept.1, kept'.1, String.toList_inj] at chars
          rw [chars, ih kept.2 kept'.2 others]

/-- **The collection is the destination of one and two points alone.** -/
theorem destination_eq_collection_iff {name : String} :
    destination name = ["api", "configs"] ↔ name = "." ∨ name = ".." := by
  unfold destination
  split_ifs with dots
  · simpa using dots
  · simp_all
  · simp_all
  · simp_all

/-- **A name leads to its own place exactly if it is written whole.** -/
theorem destination_eq_named_iff {name : String} :
    destination name = ["api", "configs", name] ↔ IsWrittenWhole name := by
  rw [IsWrittenWhole, ← keptChars_eq_toList_iff]
  unfold destination
  split_ifs with dots up here
  · exact iff_of_false (by simp) fun whole => whole.1 dots
  · refine iff_of_false (by simp) fun whole => dots ?_
    have points : name = ".." := String.toList_inj.mp (whole.2.symm.trans up)
    simp [points]
  · refine iff_of_false (fun same => ?_) fun whole => dots ?_
    · have empty : name = "" := by simpa using same.symm
      rw [empty] at here
      exact absurd here (by decide)
    · have point : name = "." := String.toList_inj.mp (whole.2.symm.trans here)
      simp [point]
  · rw [and_iff_right dots]
    simp only [List.cons.injEq, true_and, and_true]
    rw [← String.toList_inj, String.toList_ofList]

/-! ## Requests -/

/-- The path of an address without empty segments that further ones take the place of. -/
def basePath (url : WebUrl) : List String :=
  if openPath url.path = [""] then [] else openPath url.path

theorem foldl_extendPath_collection (url : WebUrl) :
    ["api", "configs"].foldl extendPath (openPath url.path) =
      basePath url ++ ["api", "configs"] := by
  have api : extendPath (openPath url.path) "api" = basePath url ++ ["api"] :=
    extendPath_of_whole (by decide) _
  have level : basePath url ++ ["api"] ≠ [""] := append_ne_root _ (by decide)
  have configs : extendPath (basePath url ++ ["api"]) "configs" =
      basePath url ++ ["api"] ++ ["configs"] := by
    rw [extendPath_of_whole (by decide), if_neg level]
    rfl
  rw [List.foldl_cons, api, List.foldl_cons, configs, List.foldl_nil, List.append_assoc]
  rfl

/-- A name leads from the path of the collection to the place of its destination. -/
theorem extendPath_collection (base : List String) (name : String) :
    extendPath (base ++ ["api", "configs"]) name =
      base ++ (destination name).map encodeSegment := by
  have level : base ++ ["api", "configs"] ≠ [""] := by
    have last := append_ne_root (base ++ ["api"]) (by decide : "configs" ≠ "")
    rwa [List.append_assoc] at last
  have kept : encodeSegment (String.ofList (keptChars name)) = encodeSegment name :=
    encodeSegment_eq_iff.mpr (keptChars_ofList_keptChars name)
  unfold extendPath destination
  rw [if_neg level]
  by_cases dots : name = "." ∨ name = ".."
  · rw [if_pos dots, if_pos (by simpa using dots)]
    rfl
  · rw [if_neg dots, if_neg (by simpa using dots), addSegment]
    cases dotted : DotSegment.of? (encodeSegment name) with
    | none =>
        have notUp : keptChars name ≠ ['.', '.'] := fun up => by
          rw [of?_encodeSegment_eq_up_iff.mpr up] at dotted
          cases dotted
        have notHere : keptChars name ≠ ['.'] := fun here => by
          rw [of?_encodeSegment_eq_here_iff.mpr here] at dotted
          cases dotted
        rw [if_neg notUp, if_neg notHere, List.map_cons, List.map_cons, List.map_singleton, kept,
          List.append_assoc]
        rfl
    | some dot =>
        cases dot with
        | here =>
            have here := of?_encodeSegment_eq_here_iff.mp dotted
            rw [if_neg (by rw [here]; decide), if_pos here]
            exact List.append_assoc base ["api", "configs"] [""]
        | up =>
            have front : (base ++ ["api", "configs"]).dropLast = base ++ ["api"] :=
              List.dropLast_append_of_ne_nil (by decide)
            rw [if_pos (of?_encodeSegment_eq_up_iff.mp dotted)]
            dsimp only
            rw [front]
            exact List.append_assoc base ["api"] [""]

variable (urls : ServiceUrls) (act : ConfigAct) (name : String)

/-- **A request for a configuration goes to the destination of its name.** -/
theorem ConfigAct.url_request : ((act.call name).request urls).url =
    { urls.engine with
      path := basePath urls.engine ++ (destination name).map encodeSegment } := by
  have some : (destination name).map encodeSegment ≠ [] := by simpa using destination_ne_nil name
  have path : joinPath urls.engine.path ["api", "configs", name] =
      basePath urls.engine ++ (destination name).map encodeSegment := by
    have split : ["api", "configs", name].foldl extendPath (openPath urls.engine.path) =
        basePath urls.engine ++ (destination name).map encodeSegment := by
      rw [← extendPath_collection, ← foldl_extendPath_collection]
      rfl
    rw [joinPath_eq_rooted, split, rooted_of_ne_nil (List.append_ne_nil_of_right_ne_nil _ some)]
  have url : ((act.call name).request urls).url = urls.engine.join ["api", "configs", name] := by
    cases act <;> rfl
  rw [url, join, path]

/-- That for the list of configurations goes to the collection. -/
theorem url_request_listConfigs : (Call.listConfigs.request urls).url =
    { urls.engine with
      path := basePath urls.engine ++ ["api", "configs"].map encodeSegment } := by
  have path : joinPath urls.engine.path ["api", "configs"] =
      basePath urls.engine ++ ["api", "configs"] := by
    rw [joinPath_eq_rooted, foldl_extendPath_collection,
      rooted_of_ne_nil (List.append_ne_nil_of_right_ne_nil _ (by decide))]
  exact congrArg (fun path => { urls.engine with path := path }) path

/-- Two such addresses are the same if the destinations are. -/
theorem text_eq_iff {url : WebUrl} {base texts texts' : List String} (some : texts ≠ [])
    (some' : texts' ≠ []) (kept : ∀ text ∈ texts, keptChars text = text.toList)
    (kept' : ∀ text ∈ texts', keptChars text = text.toList) :
    { url with path := base ++ texts.map encodeSegment }.text =
      { url with path := base ++ texts'.map encodeSegment }.text ↔ texts = texts' := by
  have inert : ∀ texts : List String, ∀ segment ∈ texts.map encodeSegment, IsInert segment := by
    intro texts segment member
    obtain ⟨text, -, rfl⟩ := List.mem_map.mp member
    exact isInert_encodeSegment text
  rw [text_inj_of_inert (inert texts) (inert texts') (by simpa using some) (by simpa using some')]
  exact ⟨map_encodeSegment_inj kept kept', fun same => same ▸ rfl⟩

/-- **Which texts are addressed exactly, and which names share an address.** A path gets one
segment for each given text, from which the text is read back, exactly if no text is one or two
points or holds a tab or a line end, and the path of the base is not two slashes. What is asked of
two configurations goes to the same address exactly if the destinations of their names are the same,
which are their own places for names that are written whole; and it goes to that of the collection
exactly if the name is one or two points. -/
theorem addresses_named_iff (base : WebUrl) {texts : List String}
    (nonempty : ∀ text ∈ texts, text ≠ "") (urls : ServiceUrls) (act act' : ConfigAct)
    (name name' : String) :
    ((∃ written, List.Forall₂ Writes texts written ∧
        (base.join texts).path = rooted (openPath base.path ++ written)) ↔
      (∀ text ∈ texts, IsWrittenWhole text) ∧ (texts = [] ∨ openPath base.path ≠ [""])) ∧
    (((act.call name).request urls).url.text = ((act'.call name').request urls).url.text ↔
      destination name = destination name') ∧
    (destination name = ["api", "configs", name] ↔ IsWrittenWhole name) ∧
    (((act.call name).request urls).url.text = (Call.listConfigs.request urls).url.text ↔
      name = "." ∨ name = "..") := by
  refine ⟨joinPath_exact_iff nonempty, ?_, destination_eq_named_iff, ?_⟩
  · rw [act.url_request, act'.url_request]
    exact text_eq_iff (destination_ne_nil name) (destination_ne_nil name')
      (keptChars_of_mem_destination name) (keptChars_of_mem_destination name')
  · rw [act.url_request, url_request_listConfigs, ← destination_eq_collection_iff]
    exact text_eq_iff (destination_ne_nil name) (by decide) (keptChars_of_mem_destination name)
      (by decide)

/-- A service at the root of a host, or below it. -/
def serviceAt (path : List String) : WebUrl where
  secure := false
  user := ""
  password := ""
  host := .domain "engine"
  port := none
  path := path
  query := none
  fragment := none

/-- A name with punctuation of the address is addressed exactly; one with a tab goes to the address
of another name, which is not that of the collection. -/
theorem addresses_named_slash :
    (∀ text ∈ ["api", "configs", "a/b?%2e#"], text ≠ "") ∧
      (∃ written, List.Forall₂ Writes ["api", "configs", "a/b?%2e#"] written ∧
        ((serviceAt ["v1", ""]).join ["api", "configs", "a/b?%2e#"]).path =
          rooted (openPath ["v1", ""] ++ written)) ∧
      ((ConfigAct.delete.call "a\tb").request ⟨serviceAt [""], serviceAt [""]⟩).url.text =
        ((ConfigAct.read.call "ab").request ⟨serviceAt [""], serviceAt [""]⟩).url.text ∧
      ((ConfigAct.delete.call "a\tb").request ⟨serviceAt [""], serviceAt [""]⟩).url.text ≠
        (Call.listConfigs.request ⟨serviceAt [""], serviceAt [""]⟩).url.text := by
  have nonempty : ∀ text ∈ ["api", "configs", "a/b?%2e#"], text ≠ "" := by decide
  obtain ⟨exact, share, -, collection⟩ := addresses_named_iff (serviceAt ["v1", ""]) nonempty
    ⟨serviceAt [""], serviceAt [""]⟩ .delete .read "a\tb" "ab"
  exact ⟨nonempty, exact.mpr ⟨by decide, Or.inr (by decide)⟩, share.mpr (by decide),
    fun same => absurd (collection.mp same) (by decide)⟩

/-- **To delete a configuration named by a point goes to the collection, and two names may share an
address**: one with a tab is that without it. -/
theorem names_share_addresses :
    ((ConfigAct.delete.call ".").request ⟨serviceAt [""], serviceAt [""]⟩).url.text =
        "http://engine/api/configs" ∧
      (Call.listConfigs.request ⟨serviceAt [""], serviceAt [""]⟩).url.text =
        "http://engine/api/configs" ∧
      ((ConfigAct.delete.call "a\tb").request ⟨serviceAt [""], serviceAt [""]⟩).url.text =
        "http://engine/api/configs/ab" ∧
      ((ConfigAct.delete.call "ab").request ⟨serviceAt [""], serviceAt [""]⟩).url.text =
        "http://engine/api/configs/ab" := by
  decide +kernel

end StrategyDesk
