import CardPayments.Time.DateTime

/-!
# The local time zone

Times without an offset are times of Mexico City, and times are shown to clients in that zone.  The
table lists the changes of its offset, each by the hour of universal time at which it happened and the
offset, in hours, that held from then on.  Before the first change local mean time was kept, and the
last offset holds for all later times.

A local time that was skipped takes the offset that held before the change, and one that happened
twice is taken as the earlier of the two: a change counts from the later of its two local times on.
-/

namespace CardPayments

namespace Zone

/-- A change of the offset. -/
structure Change where
  /-- The instant, in microseconds of universal time since the beginning of year 1. -/
  instant : Int
  /-- The offset from then on, in microseconds. -/
  offset : Int

/-- The local mean time of the city: 6 hours, 36 minutes and 36 seconds behind universal time. -/
def meanTime : Int := -23796 * (ticksPerSecond : Int)

/-- The changes: year, month, day and hour of universal time, and the new offset in hours. -/
def changeTable : List (Nat × Nat × Nat × Nat × Int) :=
  [(1922, 1, 1, 7, -7), (1927, 6, 10, 7, -6), (1930, 11, 15, 6, -7), (1931, 4, 30, 7, -6),
   (1931, 10, 1, 6, -7), (1932, 4, 1, 7, -6), (1939, 2, 5, 6, -5), (1939, 6, 25, 5, -6),
   (1940, 12, 9, 6, -5), (1941, 4, 1, 5, -6), (1943, 12, 16, 6, -5), (1944, 5, 1, 5, -6),
   (1950, 2, 12, 6, -5), (1950, 7, 30, 5, -6), (1996, 4, 7, 8, -5), (1996, 10, 27, 7, -6),
   (1997, 4, 6, 8, -5), (1997, 10, 26, 7, -6), (1998, 4, 5, 8, -5), (1998, 10, 25, 7, -6),
   (1999, 4, 4, 8, -5), (1999, 10, 31, 7, -6), (2000, 4, 2, 8, -5), (2000, 10, 29, 7, -6),
   (2001, 5, 6, 8, -5), (2001, 9, 30, 7, -6), (2002, 4, 7, 8, -5), (2002, 10, 27, 7, -6),
   (2003, 4, 6, 8, -5), (2003, 10, 26, 7, -6), (2004, 4, 4, 8, -5), (2004, 10, 31, 7, -6),
   (2005, 4, 3, 8, -5), (2005, 10, 30, 7, -6), (2006, 4, 2, 8, -5), (2006, 10, 29, 7, -6),
   (2007, 4, 1, 8, -5), (2007, 10, 28, 7, -6), (2008, 4, 6, 8, -5), (2008, 10, 26, 7, -6),
   (2009, 4, 5, 8, -5), (2009, 10, 25, 7, -6), (2010, 4, 4, 8, -5), (2010, 10, 31, 7, -6),
   (2011, 4, 3, 8, -5), (2011, 10, 30, 7, -6), (2012, 4, 1, 8, -5), (2012, 10, 28, 7, -6),
   (2013, 4, 7, 8, -5), (2013, 10, 27, 7, -6), (2014, 4, 6, 8, -5), (2014, 10, 26, 7, -6),
   (2015, 4, 5, 8, -5), (2015, 10, 25, 7, -6), (2016, 4, 3, 8, -5), (2016, 10, 30, 7, -6),
   (2017, 4, 2, 8, -5), (2017, 10, 29, 7, -6), (2018, 4, 1, 8, -5), (2018, 10, 28, 7, -6),
   (2019, 4, 7, 8, -5), (2019, 10, 27, 7, -6), (2020, 4, 5, 8, -5), (2020, 10, 25, 7, -6),
   (2021, 4, 4, 8, -5), (2021, 10, 31, 7, -6), (2022, 4, 3, 8, -5), (2022, 10, 30, 7, -6)]

/-- The changes in ascending order. -/
def changes : List Change := changeTable.map fun (year, month, day, hour, offset) =>
  ⟨((⟨⟨year, month, day⟩, hour, 0, 0, 0⟩ : TimeFields).ticks : Int),
    offset * 3600 * (ticksPerSecond : Int)⟩

/-- The loop of `offsetAt`: `before` is the offset before the changes that are left. -/
def offsetAt.go (instant : Int) : Int → List Change → Int
  | before, [] => before
  | before, change :: later =>
    if instant < change.instant then before else offsetAt.go instant change.offset later

/-- The offset that is kept at an instant, in microseconds. -/
def offsetAt (instant : Int) : Int := offsetAt.go instant meanTime changes

/-- The loop of `offsetOfLocal`. -/
def offsetOfLocal.go (time : Int) : Int → List Change → Int
  | before, [] => before
  | before, change :: later =>
    if time < change.instant + max before change.offset then before
    else offsetOfLocal.go time change.offset later

/-- The offset at which a local time is kept, in microseconds. -/
def offsetOfLocal (time : LocalTime) : Int := offsetOfLocal.go time.ticks meanTime changes

/-- An offset of the zone. -/
def toOffset (ticks : Int) : Offset := (Offset.ofTicks? ticks).getD Offset.utc

/-- The instant that a date and time denotes; one without an offset is a local time of the zone. -/
def instantOf : DateTime → Int
  | .naive t => DateTime.instantAt t (toOffset (offsetOfLocal t))
  | .aware t offset => DateTime.instantAt t offset

/-- The date and time of an instant as it is shown in the zone. -/
def show? (instant : Int) : Option DateTime := DateTime.ofInstant? instant (toOffset (offsetAt instant))

/-- The date and time of an instant in universal time. -/
def universal? (instant : Int) : Option DateTime := DateTime.ofInstant? instant Offset.utc

end Zone

end CardPayments
