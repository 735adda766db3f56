import Soufang.Core.Paths
import Soufang.Core.Requests
import Soufang.L2Service.AddressService
import Soufang.L2Service.QiNiuService

/-!
# Photo uploads

`uploadPhoto` writes the uploaded bytes to the path it gets by joining the
image directory and the name the client gives, and answers with a key under
`/image/`. An `IOException` of the write is printed and the answer is success
all the same.

`Host` is what the platform decides: which file a resolved path names (the
file system may take several names for one), which file a path below
`classpath:/img/` is, and which path the server gets when a client asks for
the URL of a key. The disk maps files to their contents; directories are made
as needed and left out.

* `durable_iff`: the sequences of uploads whose photos are stored in the image
  directory, served under their keys and kept.
* `durable_of_plain`: uploads under plain names of different files, all
  written, are such a sequence.
-/
namespace Soufang

open Paths

/-- mirrors soufang/src/main/java/com/wf/web/dto/QiNiuPutRet.java:6-19 -/
structure QiNiuPutRet where
  key : String
  hash : Option String
  bucket : Option String
  width : Int
  height : Int
  deriving DecidableEq

structure PhotoResponse extends ApiResponse where
  data : Option QiNiuPutRet
  deriving DecidableEq

/-- How a write ends: with all bytes in the file, or with an exception that
leaves something else there. -/
inductive Write
  | ok
  | failed (left : Option Content)
  deriving DecidableEq

def Write.leaves (content : Content) : Write → Option Content
  | .ok => some content
  | .failed left => left

structure PhotoUpload where
  content : Content
  filename : String
  write : Write

structure Host (F : Type) where
  fileOf : List Segment → F
  resource : List Segment → F
  request : String → Option String

abbrev Disk (F : Type) := F → Option Content

namespace AdminController

/-- mirrors soufang/src/main/java/com/wf/web/controller/admin/AdminController.java:50 -/
def IMAGE_PATH : String := "http://127.0.0.1:8080/image/"

/-- mirrors soufang/src/main/java/com/wf/web/controller/admin/AdminController.java:98 -/
def path : String := "D:\\aWf\\soufang\\src\\main\\resources\\img"

/-- The path of an upload, after its drive, resolved from the root.
mirrors soufang/src/main/java/com/wf/web/controller/admin/AdminController.java:100-108 -/
def destination (filename : String) : List Segment :=
  resolve [] ((path ++ "\\" ++ filename).toList.drop "D:".length)

section
variable {F : Type} [DecidableEq F]

/-- mirrors soufang/src/main/java/com/wf/web/controller/admin/AdminController.java:89-115 -/
def uploadPhoto (host : Host F) (disk : Disk F) (u : PhotoUpload) : Disk F × PhotoResponse :=
  if u.content = [] then
    (disk, ⟨⟨ApiStatus.NOT_VALID_PARAM.code, some ApiStatus.NOT_VALID_PARAM.standardMessage⟩, none⟩)
  else
    (Function.update disk (host.fileOf (destination u.filename)) (u.write.leaves u.content),
      ⟨⟨ApiStatus.SUCCESS.code, some ApiStatus.SUCCESS.standardMessage⟩,
        some ⟨IMAGE_PATH ++ u.filename, none, none, 110, 100⟩⟩)

/-- The file served for a URL. The handler refuses a path that leaves the
directory.
mirrors soufang/src/main/java/com/wf/config/WebMvcConfig.java:35-40 -/
def served (host : Host F) (url : String) : Option F :=
  if IMAGE_PATH.toList <+: url.toList then
    match host.request (String.ofList (url.toList.drop IMAGE_PATH.length)) with
    | none => none
    | some p => (below p.toList).map host.resource
  else none

end

/-! ## Durable photos -/

def imageDirectory : List Segment := resolve [] (path.toList.drop "D:".length)

/-- The path of an upload is that of an entry of the image directory. -/
def Inside (filename : String) : Prop := ∃ name, destination filename = imageDirectory ++ [name]

section
variable {F : Type} [DecidableEq F]

/-- The disk after a sequence of uploads. -/
def after (host : Host F) (disk : Disk F) (us : List PhotoUpload) : Disk F :=
  (Requests.run (uploadPhoto host) disk us).1

/-- Every upload that is answered with success has its photo directly in the
image directory, served under the key of the answer, and with its bytes from
then on. -/
def Durable (host : Host F) (disk : Disk F) (us : List PhotoUpload) : Prop :=
  ∀ earlier u rest, us = earlier ++ u :: rest → ∀ ret,
    (uploadPhoto host (after host disk earlier) u).2 =
      ⟨⟨ApiStatus.SUCCESS.code, some ApiStatus.SUCCESS.standardMessage⟩, some ret⟩ →
    Inside u.filename ∧ served host ret.key = some (host.fileOf (destination u.filename)) ∧
      ∀ later, later <+: rest →
        after host disk (earlier ++ u :: later) (host.fileOf (destination u.filename)) = some u.content

/-- The upload writes all its bytes, its name leads directly into the image
directory, and the URL of its key to the same file. -/
structure Sound (host : Host F) (u : PhotoUpload) : Prop where
  written : u.write.leaves u.content = some u.content
  inside : Inside u.filename
  served : served host (IMAGE_PATH ++ u.filename) = some (host.fileOf (destination u.filename))

/-- Uploads to one file have the same bytes. -/
def Compatible (host : Host F) (u v : PhotoUpload) : Prop :=
  host.fileOf (destination u.filename) = host.fileOf (destination v.filename) → u.content = v.content

theorem uploadPhoto_accepted (host : Host F) (disk : Disk F) {u : PhotoUpload} (hc : u.content ≠ []) :
    uploadPhoto host disk u =
      (Function.update disk (host.fileOf (destination u.filename)) (u.write.leaves u.content),
        ⟨⟨ApiStatus.SUCCESS.code, some ApiStatus.SUCCESS.standardMessage⟩,
          some ⟨IMAGE_PATH ++ u.filename, none, none, 110, 100⟩⟩) := if_neg hc

theorem uploadPhoto_empty (host : Host F) (disk : Disk F) {u : PhotoUpload} (hc : u.content = []) :
    uploadPhoto host disk u =
      (disk, ⟨⟨ApiStatus.NOT_VALID_PARAM.code, some ApiStatus.NOT_VALID_PARAM.standardMessage⟩, none⟩) := if_pos hc

theorem after_append (host : Host F) (disk : Disk F) (us vs : List PhotoUpload) :
    after host disk (us ++ vs) = after host (after host disk us) vs := Requests.run_append_state _ _ _ _

/-- An accepted upload leaves its outcome in its file. -/
theorem after_upload (host : Host F) (disk : Disk F) {u : PhotoUpload} (hc : u.content ≠ []) (us : List PhotoUpload) :
    after host disk (us ++ [u]) (host.fileOf (destination u.filename)) = u.write.leaves u.content := by
  rw [after_append]
  change (uploadPhoto host (after host disk us) u).1 _ = _
  rw [uploadPhoto_accepted host _ hc]
  exact Function.update_self _ _ _

/-- A file keeps its bytes under uploads that leave these bytes in it. -/
theorem after_keeps (host : Host F) {f : F} {content : Content} (us : List PhotoUpload)
    (hsame : ∀ v ∈ us, v.content ≠ [] → host.fileOf (destination v.filename) = f →
      v.write.leaves v.content = some content) {disk : Disk F} (hf : disk f = some content) :
    after host disk us f = some content := by
  induction us generalizing disk with
  | nil => exact hf
  | cons v us ih =>
    obtain ⟨hv, hus⟩ := List.forall_mem_cons.mp hsame
    refine ih hus ?_
    by_cases hc : v.content = []
    · rw [uploadPhoto_empty host disk hc]
      exact hf
    · rw [uploadPhoto_accepted host disk hc]
      dsimp only
      by_cases hd : f = host.fileOf (destination v.filename)
      · rw [hd, Function.update_self]
        exact hv hc hd.symm
      · rw [Function.update_of_ne hd]
        exact hf

/-- A photo of a durable sequence is sound. -/
theorem Durable.sound {host : Host F} {disk : Disk F} {us : List PhotoUpload} (h : Durable host disk us)
    {u : PhotoUpload} (hu : u ∈ us) (hc : u.content ≠ []) : Sound host u := by
  obtain ⟨earlier, rest, rfl⟩ := List.append_of_mem hu
  obtain ⟨hinside, hserved, hkept⟩ := h earlier u rest rfl _
    (congrArg Prod.snd (uploadPhoto_accepted host (after host disk earlier) hc))
  refine ⟨?_, hinside, hserved⟩
  rw [← after_upload host disk hc earlier]
  exact hkept [] List.nil_prefix

/-- A later upload to its file leaves the same bytes. -/
theorem Durable.compatible {host : Host F} {disk : Disk F} {us : List PhotoUpload} (h : Durable host disk us) :
    us.Pairwise fun u v => u.content ≠ [] → v.content ≠ [] → Compatible host u v := by
  rw [List.pairwise_iff_forall_sublist]
  intro u v hsub hu hv hsame
  obtain ⟨front, back, rfl, hmemu, hsubv⟩ := List.cons_sublist_iff.mp hsub
  obtain ⟨earlier, mid, rfl⟩ := List.append_of_mem hmemu
  obtain ⟨mid', rest, rfl⟩ := List.append_of_mem (List.singleton_sublist.mp hsubv)
  have hvmem : v ∈ earlier ++ u :: mid ++ (mid' ++ v :: rest) := by simp
  have hprefix : mid ++ mid' ++ [v] <+: mid ++ (mid' ++ v :: rest) := ⟨rest, by simp⟩
  obtain ⟨-, -, hkept⟩ := h earlier u (mid ++ (mid' ++ v :: rest)) (by simp) _
    (congrArg Prod.snd (uploadPhoto_accepted host (after host disk earlier) hu))
  have hleft := after_upload host disk hv (earlier ++ u :: (mid ++ mid'))
  have hkeep := hkept _ hprefix
  rw [hsame, show earlier ++ u :: (mid ++ mid' ++ [v]) = earlier ++ u :: (mid ++ mid') ++ [v] by simp,
    hleft, (h.sound hvmem hv).written] at hkeep
  exact (Option.some.inj hkeep).symm

/-- What a sequence of uploads needs. -/
structure AllSound (host : Host F) (us : List PhotoUpload) : Prop where
  sound : ∀ u ∈ us, u.content ≠ [] → Sound host u
  compatible : us.Pairwise fun u v => u.content ≠ [] → v.content ≠ [] → Compatible host u v

theorem AllSound.durable {host : Host F} {us : List PhotoUpload} (h : AllSound host us) (disk : Disk F) :
    Durable host disk us := by
  intro earlier u rest rfl ret hret
  have hc : u.content ≠ [] := by
    intro hc
    rw [uploadPhoto_empty host _ hc] at hret
    cases hret
  have hu := h.sound u (by simp) hc
  rw [uploadPhoto_accepted host _ hc] at hret
  cases hret
  refine ⟨hu.inside, hu.served, fun later hlater => ?_⟩
  obtain ⟨-, htail, -⟩ := List.pairwise_append.mp h.compatible
  have hpairs := (List.pairwise_cons.mp htail).1
  have hfirst := after_upload host disk hc earlier
  rw [hu.written] at hfirst
  rw [show earlier ++ u :: later = earlier ++ [u] ++ later by simp, after_append]
  -- the later uploads to this file have the same bytes, and write them
  refine after_keeps host later (fun v hv hvc hd => ?_) hfirst
  have hvrest : v ∈ rest := hlater.subset hv
  rw [(h.sound v (by simp [hvrest]) hvc).written, hpairs v hvrest hc hvc hd.symm]

/-- A sequence of uploads is durable exactly if each photo that is not empty
is sound and those under names of one file have the same bytes. -/
theorem durable_iff (host : Host F) (disk : Disk F) (us : List PhotoUpload) :
    Durable host disk us ↔ AllSound host us :=
  ⟨fun h => ⟨fun _ hu hc => h.sound hu hc, h.compatible⟩, fun h => h.durable disk⟩

/-! ## Plain names -/

theorem destination_eq (filename : String) : destination filename = resolve imageDirectory filename.toList := by
  have hjoin : (path ++ "\\" ++ filename).toList.drop "D:".length =
      path.toList.drop "D:".length ++ '\\' :: filename.toList := by
    rw [String.toList_append, String.toList_append, List.append_assoc]
    rfl
  rw [destination, hjoin, resolve_append _ _ _ (by decide)]
  rfl

/-- A plain name leads directly into the image directory. -/
theorem inside_of_plain {filename : String} (h : Plain filename.toList) : Inside filename :=
  ⟨filename.toList, by rw [destination_eq, resolve_plain h]⟩

omit [DecidableEq F] in
theorem served_key (host : Host F) {filename p : String} (hr : host.request filename = some p) :
    served host (IMAGE_PATH ++ filename) = (below p.toList).map host.resource := by
  have hprefix : IMAGE_PATH.toList <+: (IMAGE_PATH ++ filename).toList := by
    rw [String.toList_append]
    exact List.prefix_append _ _
  have hrest : String.ofList ((IMAGE_PATH ++ filename).toList.drop IMAGE_PATH.length) = filename := by
    rw [String.toList_append, ← String.length_toList, List.drop_left, String.ofList_toList]
  rw [served, if_pos hprefix, hrest, hr]

/-- The server serves the image directory, and the URL of a plain name is a
request for this name. -/
structure Serving (host : Host F) : Prop where
  resource : ∀ p, host.resource p = host.fileOf (imageDirectory ++ p)
  request : ∀ name : String, Plain name.toList → host.request name = some name

/-- Photos under plain names of different files, all written, are durable. -/
theorem durable_of_plain {host : Host F} (hs : Serving host) (disk : Disk F) {us : List PhotoUpload}
    (hplain : ∀ u ∈ us, Plain u.filename.toList) (hok : ∀ u ∈ us, u.write = .ok)
    (hdistinct : us.Pairwise fun u v =>
      host.fileOf (destination u.filename) ≠ host.fileOf (destination v.filename)) : Durable host disk us := by
  refine AllSound.durable ⟨fun u hu _ => ⟨?_, inside_of_plain (hplain u hu), ?_⟩, ?_⟩ disk
  · rw [hok u hu]
    rfl
  · rw [served_key host (hs.request _ (hplain u hu)), below_plain (hplain u hu), Option.map_some, hs.resource,
      destination_eq, resolve_plain (hplain u hu)]
  · exact hdistinct.imp fun hne _ _ hsame => absurd hsame hne

end

end AdminController

/-- A disk that tells files apart by their resolved paths, and a server that
takes the key as it is. -/
def Sample.host : Host (List Segment) :=
  ⟨fun p => p, fun p => AdminController.imageDirectory ++ p, fun name => some name⟩

namespace AdminController

/-- Two photos of the same name: the second takes the place of the first. -/
theorem photo_overwritten : ¬ Durable Sample.host (fun _ => none) [⟨[1], "a.jpg", .ok⟩, ⟨[2], "a.jpg", .ok⟩] := by
  intro h
  have hpair := (List.pairwise_cons.mp h.compatible).1 _ (List.mem_singleton.mpr rfl)
  have hsame : ([1] : Content) = [2] := hpair (List.cons_ne_nil _ _) (List.cons_ne_nil _ _) rfl
  cases hsame

end AdminController

end Soufang
