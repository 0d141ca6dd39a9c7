import Whereto.Proofs.Url.Segment
import Whereto.Service.Backend

/-!
What is requested for the details of a plan. The path of the base goes on to `plans` and to one more
segment, into which the whole id is encoded, whatever characters it has; so ids are not mixed up,
and none of them reaches another place below the base. But dots alone are no segment, and tabs and
line ends are dropped from one: with such an id the request goes elsewhere.
-/

namespace Whereto

open Url

/-- A network that notes what is requested, whatever is answered. -/
def Network.noting (answer : Request → Option Response) : Network (StateM (List Request)) :=
  fun r => do
    modify (· ++ [r])
    return answer r

namespace Backend

variable {b : Backend} {u : Url} {r : Request} {ss base : List String} {id segment : String}
  {date : Option String} {answer : Request → Option Response}

/-- The requests that are made for the details of a plan. -/
def requested (b : Backend) (answer : Request → Option Response) (id : String)
    (date : Option String) : List Request :=
  ((b.planDetails (Network.noting answer) id date).run []).2

/-- There is one if it can be sent. -/
lemma requested_eq (h : b.request (detailPath id) (detailQuery date) = .ok r) :
    b.requested answer id date = if r.isSendable then [r] else [] := by
  unfold requested planDetails ask
  rw [h]
  dsimp only [Network.fetch, Network.noting]
  split
  · cases answer r <;> rfl
  · rfl

/-- The segments below which the requests are made. -/
def root (ss : List String) : List String := stem (withoutTrailing ss)

/-- The path leads to one plan: it goes on from the base to `plans` and one more segment, which is
decoded to the id, holds nothing that would end it and is not read as dots. -/
def LeadsTo (base : List String) (path : UrlPath) (id : String) : Prop :=
  ∃ segment, path = .segments (base ++ ["plans", segment]) ∧
    Percent.decodeText? segment.toList = some id ∧
    (∀ c ∈ ['/', '\\', '?', '#'], c ∉ segment.toList) ∧ segment ∉ oneDot ∧ segment ∉ twoDots

/-- The id is not made of dots that a path resolves, and holds nothing that a URL drops. -/
def IsPlain (id : String) : Prop :=
  id ≠ "." ∧ id ≠ ".." ∧ ∀ c ∈ id.toList, isDropped c = false

/-- The path that is requested for the details of a plan. -/
def detailsAt (special : Bool) (base : List String) (id : String) : List String :=
  addSegment special (base ++ ["plans"]) id

lemma stem_concat_plans (base : List String) : stem (base ++ ["plans"]) = base ++ ["plans"] := by
  refine if_neg fun h => ?_
  have hlast := congrArg List.getLast? h
  simp at hlast

lemma kept_plans : kept "plans" = "plans".toList := by decide

lemma addSegment_plans (special : Bool) (ss : List String) :
    addSegment special ss "plans" = stem ss ++ ["plans"] := by
  have hplain : segmentText special "plans".toList = "plans" := by cases special <;> decide
  rw [addSegment_of_kept (by decide) (by decide), kept_plans, hplain]

/-- The request for the details of a plan, at the base that was read. -/
lemma request_details (hread : Url.read b.base = .ok u) (hpath : u.path = .segments ss)
    (id : String) (date : Option String) :
    b.request (detailPath id) (detailQuery date) =
      .ok ⟨{ u with path := .segments (detailsAt u.isSpecial (root ss) id) }.withQuery
        (detailQuery date), some agent⟩ := by
  simp only [request, endpoint, hread, extend?, hpath, detailPath, List.foldl_cons, List.foldl_nil,
    addSegment_plans, Except.map, detailsAt, root]

/-! ### Ids and paths -/

lemma IsPlain.kept_eq (h : IsPlain id) : kept id = id.toList := (kept_eq_toList id).mpr h.2.2

lemma leadsTo_of_kept (hone : kept id ≠ ['.']) (htwo : kept id ≠ ['.', '.']) :
    LeadsTo base (.segments (detailsAt true base id)) (String.ofList (kept id)) := by
  refine ⟨segmentText true (kept id), ?_, decodeText?_segmentText _ _, fun c hc => ?_,
    mt segmentText_mem_oneDot.mp hone, mt segmentText_mem_twoDots.mp htwo⟩
  · rw [detailsAt, addSegment_of_kept hone htwo, stem_concat_plans, List.append_assoc]
    rfl
  · have hends : inSegment true c = true ∧ c ≠ '%' ∧ c ∉ hexDigits := by
      simp only [List.mem_cons, List.not_mem_nil, or_false] at hc
      rcases hc with rfl | rfl | rfl | rfl <;> decide
    exact not_mem_segmentText hends.1 hends.2.1 hends.2.2

lemma IsPlain.leadsTo (h : IsPlain id) : LeadsTo base (.segments (detailsAt true base id)) id := by
  have hkept := h.kept_eq
  have hlist (cs : List Char) (hne : id ≠ String.ofList cs) : kept id ≠ cs := fun heq =>
    hne (by rw [← heq, hkept, String.ofList_toList])
  have hleads : LeadsTo base (.segments (detailsAt true base id)) (String.ofList (kept id)) :=
    leadsTo_of_kept (hlist ['.'] h.1) (hlist ['.', '.'] h.2.1)
  rwa [hkept, String.ofList_toList] at hleads

/-- Where the path leads to the id, the segment after `plans` is decoded to it. -/
lemma LeadsTo.decodeText? (h : LeadsTo base (.segments (base ++ ["plans", segment])) id) :
    Percent.decodeText? segment.toList = some id := by
  obtain ⟨found, hpath, hdecoded, -⟩ := h
  have hsame := List.append_cancel_left (UrlPath.segments.inj hpath)
  obtain rfl : segment = found := by simpa using hsame
  exact hdecoded

lemma LeadsTo.length_eq {path : List String} (h : LeadsTo base (.segments path) id) :
    path.length = base.length + 2 := by
  obtain ⟨segment, hpath, -⟩ := h
  rw [UrlPath.segments.inj hpath]
  simp

lemma isPlain_of_leadsTo (h : LeadsTo base (.segments (detailsAt true base id)) id) :
    IsPlain id := by
  have hne : ¬ (id = "." ∨ id = "..") := by
    intro hdots
    rw [detailsAt, addSegment_of_dots hdots] at h
    simpa using h.length_eq
  refine ⟨fun hone => hne (.inl hone), fun htwo => hne (.inr htwo), ?_⟩
  rw [← kept_eq_toList]
  unfold detailsAt at h
  -- what is left is at most what is read back, so nothing may have been dropped
  by_cases hone : kept id = ['.']
  · rw [addSegment_of_kept_dot hne hone, stem_concat_plans, List.append_assoc] at h
    have hempty : some (String.ofList []) = some id :=
      (decodeText?_segmentText true []).symm.trans h.decodeText?
    obtain rfl := Option.some.inj hempty
    cases hone
  by_cases htwo : kept id = ['.', '.']
  · rw [addSegment_of_kept_dots hne htwo, stem_concat_plans] at h
    simpa using h.length_eq
  rw [addSegment_of_kept hone htwo, stem_concat_plans, List.append_assoc] at h
  have hid : some (String.ofList (kept id)) = some id :=
    (decodeText?_segmentText true _).symm.trans h.decodeText?
  simpa using congrArg String.toList (Option.some.inj hid)

lemma pathText_concat (ss : List String) (s : String) :
    pathText (.segments (ss ++ [s])) = pathText (.segments ss) ++ ("/" ++ s) := by
  simp [pathText, String.join_append]

/-- From the text of a path that leads to an id, the id is known. -/
lemma LeadsTo.id_eq {path path' : UrlPath} {id' : String} (h : LeadsTo base path id)
    (h' : LeadsTo base path' id') (htext : pathText path = pathText path') : id = id' := by
  obtain ⟨segment, rfl, hdecoded, -⟩ := h
  obtain ⟨segment', rfl, hdecoded', -⟩ := h'
  have hconcat (s : String) : pathText (.segments (base ++ ["plans", s])) =
      pathText (.segments (base ++ ["plans"])) ++ ("/" ++ s) := by
    rw [← pathText_concat, List.append_assoc]
    rfl
  rw [hconcat, hconcat, String.append_right_inj, String.append_right_inj] at htext
  rw [htext, hdecoded'] at hdecoded
  exact (Option.some.inj hdecoded).symm

/-- What is requested for the details of a plan, below a base that was read. -/
structure AsksFor (u : Url) (base : List String) (id : String) (r : Request) : Prop where
  /-- The place is that of the base. -/
  place : r.url.scheme = u.scheme ∧ r.url.host = u.host ∧ r.url.port = u.port
  /-- The path leads to the plan exactly if the id is plain. -/
  leadsTo_iff : LeadsTo base r.url.path id ↔ IsPlain id
  /-- With dots for an id, plans are searched for. -/
  dots : id = "." ∨ id = ".." → r.url.path = .segments (base ++ ["plans"])
  /-- Unless dots are left, the path leads to the plan whose id is what is left. -/
  dropped : kept id ≠ ['.'] → kept id ≠ ['.', '.'] →
    LeadsTo base r.url.path (String.ofList (kept id))

lemma asksFor (hspecial : u.isSpecial = true) (base : List String) (id : String)
    (date : Option String) :
    AsksFor u base id
      ⟨{ u with path := .segments (detailsAt u.isSpecial base id) }.withQuery (detailQuery date),
        some agent⟩ := by
  rw [hspecial]
  exact ⟨⟨rfl, rfl, rfl⟩, ⟨isPlain_of_leadsTo, IsPlain.leadsTo⟩,
    fun hdots => congrArg UrlPath.segments (addSegment_of_dots hdots), leadsTo_of_kept⟩

/-- **Which plan is asked for.** At every base of the web, the request for the details of a plan is
built and made at most once, whatever is answered. It goes to the place of the base, and its path
leads to the plan with exactly this id if and only if the id is not made of dots and holds neither
tabs nor line ends; different ids of this kind give different paths. -/
theorem leadsTo_iff_isPlain (read : Url.read b.base = .ok u)
    (web : u.scheme = "http" ∨ u.scheme = "https") :
    ∃ ss, u.path = .segments ss ∧
      (∀ id date answer, ∃ r, b.request (detailPath id) (detailQuery date) = .ok r ∧
        b.requested answer id date = (if r.isSendable then [r] else []) ∧
        AsksFor u (root ss) id r) ∧
      ∀ id id' date date' r r', IsPlain id → IsPlain id' →
        b.request (detailPath id) (detailQuery date) = .ok r →
        b.request (detailPath id') (detailQuery date') = .ok r' →
        pathText r.url.path = pathText r'.url.path → id = id' := by
  have hspecial : u.isSpecial = true := by
    unfold Url.isSpecial
    rcases web with h | h <;> rw [h] <;> decide
  obtain ⟨ss, hpath⟩ := exists_segments read hspecial
  have hrequest (id date) := request_details read hpath id date
  have hasks (id date) := asksFor hspecial (root ss) id date
  refine ⟨ss, hpath, fun id date answer => ⟨_, hrequest id date, requested_eq (hrequest id date),
    hasks id date⟩, fun id id' date date' r r' hplain hplain' hr hr' htext => ?_⟩
  obtain rfl := Except.ok.inj ((hrequest id date).symm.trans hr)
  obtain rfl := Except.ok.inj ((hrequest id' date').symm.trans hr')
  exact ((hasks id date).leadsTo_iff.mpr hplain).id_eq ((hasks id' date').leadsTo_iff.mpr hplain')
    htext

/-- A base with a slash at the end of its path and with a query. -/
def planner : Backend := ⟨"http://127.0.0.1:8080/v1/?lang=en"⟩

def plannerUrl : Url :=
  ⟨"http", some "127.0.0.1", some 8080, .segments ["v1", ""], some "lang=en", none⟩

theorem planner_leadsTo : Url.read planner.base = .ok plannerUrl ∧
    ∃ r, planner.request (detailPath "../plans?é%2F") (detailQuery (some "2026-11-02")) = .ok r ∧
      LeadsTo ["v1"] r.url.path "../plans?é%2F" := by
  have hread : Url.read planner.base = .ok plannerUrl := rfl
  obtain ⟨ss, hpath, hrequests, -⟩ := leadsTo_iff_isPlain hread (.inl rfl)
  obtain rfl := UrlPath.segments.inj hpath
  obtain ⟨r, hr, -, hasks⟩ := hrequests "../plans?é%2F" (some "2026-11-02") fun _ => none
  exact ⟨hread, r, hr, hasks.leadsTo_iff.mpr ⟨by decide, by decide, (kept_eq_toList _).mp (by decide)⟩⟩

/-- With two dots for an id, plans are searched for; and a tab in an id is lost. -/
theorem planner_mistakes :
    planner.request (detailPath "..") (detailQuery none) =
      planner.request ["plans"] (detailQuery none) ∧
    planner.requested (fun _ => none) "4\t2" none = planner.requested (fun _ => none) "42" none ∧
    planner.requested (fun _ => none) "42" none ≠ [] := by
  refine ⟨rfl, rfl, ?_⟩
  decide +kernel

end Backend

end Whereto
