/-!
# Element ids

The ids of the elements that are read, with their length marker.
-/

namespace MediaTags.Matroska.Id

@[match_pattern] def ebml : Nat := 0x1A45DFA3

@[match_pattern] def segment : Nat := 0x18538067
@[match_pattern] def seekHead : Nat := 0x114D9B74
@[match_pattern] def seek : Nat := 0x4DBB
@[match_pattern] def seekId : Nat := 0x53AB
@[match_pattern] def seekPosition : Nat := 0x53AC
@[match_pattern] def cluster : Nat := 0x1F43B675

@[match_pattern] def info : Nat := 0x1549A966
@[match_pattern] def timecodeScale : Nat := 0x2AD7B1
@[match_pattern] def duration : Nat := 0x4489

@[match_pattern] def tracks : Nat := 0x1654AE6B
@[match_pattern] def trackEntry : Nat := 0xAE
@[match_pattern] def trackNumber : Nat := 0xD7
@[match_pattern] def trackUid : Nat := 0x73C5
@[match_pattern] def trackType : Nat := 0x83
@[match_pattern] def codecId : Nat := 0x86
@[match_pattern] def codecPrivate : Nat := 0x63A2
@[match_pattern] def name : Nat := 0x536E
@[match_pattern] def audio : Nat := 0xE1
@[match_pattern] def samplingFrequency : Nat := 0xB5
@[match_pattern] def channels : Nat := 0x9F
@[match_pattern] def bitDepth : Nat := 0x6264

@[match_pattern] def chapters : Nat := 0x1043A770
@[match_pattern] def editionEntry : Nat := 0x45B9
@[match_pattern] def editionFlagDefault : Nat := 0x45DB
@[match_pattern] def chapterAtom : Nat := 0xB6
@[match_pattern] def chapterUid : Nat := 0x73C4
@[match_pattern] def chapterTimeStart : Nat := 0x91
@[match_pattern] def chapterTimeEnd : Nat := 0x92
@[match_pattern] def chapterFlagHidden : Nat := 0x98
@[match_pattern] def chapterFlagEnabled : Nat := 0x4598
@[match_pattern] def chapterDisplay : Nat := 0x80
@[match_pattern] def chapString : Nat := 0x85

@[match_pattern] def tags : Nat := 0x1254C367
@[match_pattern] def tag : Nat := 0x7373
@[match_pattern] def targets : Nat := 0x63C0
@[match_pattern] def targetType : Nat := 0x63CA
@[match_pattern] def tagTrackUid : Nat := 0x63C5
@[match_pattern] def tagEditionUid : Nat := 0x63C9
@[match_pattern] def tagChapterUid : Nat := 0x63C4
@[match_pattern] def tagAttachmentUid : Nat := 0x63C6
@[match_pattern] def simpleTag : Nat := 0x67C8
@[match_pattern] def tagName : Nat := 0x45A3
@[match_pattern] def tagString : Nat := 0x4487

end MediaTags.Matroska.Id
