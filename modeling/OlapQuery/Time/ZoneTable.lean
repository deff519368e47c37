import OlapQuery.Time.Zone

-- The database that the program runs with here: Greenwich under five names, and ten zones with the
-- changes of their clocks from 1999 to 2021.

namespace OlapQuery.Time.Zone

-- From this moment of Greenwich time on the clock is `minutes` ahead.
def change (year month day hour minute : Nat) (minutes : Int) : Change :=
  let date : Date := { year := year,month := month,day := day }
  { since := (LocalTime.ofParts date.dayNumber hour minute 0).seconds,offset := minutes * 60 }

def losAngeles : Zone :=
  { name := "America/Los_Angeles",standing := -480 * 60
    changes := [
      change 1999 4 4 10 0 (-420),
      change 1999 10 31 9 0 (-480),
      change 2000 4 2 10 0 (-420),
      change 2000 10 29 9 0 (-480),
      change 2001 4 1 10 0 (-420),
      change 2001 10 28 9 0 (-480),
      change 2002 4 7 10 0 (-420),
      change 2002 10 27 9 0 (-480),
      change 2003 4 6 10 0 (-420),
      change 2003 10 26 9 0 (-480),
      change 2004 4 4 10 0 (-420),
      change 2004 10 31 9 0 (-480),
      change 2005 4 3 10 0 (-420),
      change 2005 10 30 9 0 (-480),
      change 2006 4 2 10 0 (-420),
      change 2006 10 29 9 0 (-480),
      change 2007 3 11 10 0 (-420),
      change 2007 11 4 9 0 (-480),
      change 2008 3 9 10 0 (-420),
      change 2008 11 2 9 0 (-480),
      change 2009 3 8 10 0 (-420),
      change 2009 11 1 9 0 (-480),
      change 2010 3 14 10 0 (-420),
      change 2010 11 7 9 0 (-480),
      change 2011 3 13 10 0 (-420),
      change 2011 11 6 9 0 (-480),
      change 2012 3 11 10 0 (-420),
      change 2012 11 4 9 0 (-480),
      change 2013 3 10 10 0 (-420),
      change 2013 11 3 9 0 (-480),
      change 2014 3 9 10 0 (-420),
      change 2014 11 2 9 0 (-480),
      change 2015 3 8 10 0 (-420),
      change 2015 11 1 9 0 (-480),
      change 2016 3 13 10 0 (-420),
      change 2016 11 6 9 0 (-480),
      change 2017 3 12 10 0 (-420),
      change 2017 11 5 9 0 (-480),
      change 2018 3 11 10 0 (-420),
      change 2018 11 4 9 0 (-480),
      change 2019 3 10 10 0 (-420),
      change 2019 11 3 9 0 (-480),
      change 2020 3 8 10 0 (-420),
      change 2020 11 1 9 0 (-480),
      change 2021 3 14 10 0 (-420),
      change 2021 11 7 9 0 (-480)] }

def newYork : Zone :=
  { name := "America/New_York",standing := -300 * 60
    changes := [
      change 1999 4 4 7 0 (-240),
      change 1999 10 31 6 0 (-300),
      change 2000 4 2 7 0 (-240),
      change 2000 10 29 6 0 (-300),
      change 2001 4 1 7 0 (-240),
      change 2001 10 28 6 0 (-300),
      change 2002 4 7 7 0 (-240),
      change 2002 10 27 6 0 (-300),
      change 2003 4 6 7 0 (-240),
      change 2003 10 26 6 0 (-300),
      change 2004 4 4 7 0 (-240),
      change 2004 10 31 6 0 (-300),
      change 2005 4 3 7 0 (-240),
      change 2005 10 30 6 0 (-300),
      change 2006 4 2 7 0 (-240),
      change 2006 10 29 6 0 (-300),
      change 2007 3 11 7 0 (-240),
      change 2007 11 4 6 0 (-300),
      change 2008 3 9 7 0 (-240),
      change 2008 11 2 6 0 (-300),
      change 2009 3 8 7 0 (-240),
      change 2009 11 1 6 0 (-300),
      change 2010 3 14 7 0 (-240),
      change 2010 11 7 6 0 (-300),
      change 2011 3 13 7 0 (-240),
      change 2011 11 6 6 0 (-300),
      change 2012 3 11 7 0 (-240),
      change 2012 11 4 6 0 (-300),
      change 2013 3 10 7 0 (-240),
      change 2013 11 3 6 0 (-300),
      change 2014 3 9 7 0 (-240),
      change 2014 11 2 6 0 (-300),
      change 2015 3 8 7 0 (-240),
      change 2015 11 1 6 0 (-300),
      change 2016 3 13 7 0 (-240),
      change 2016 11 6 6 0 (-300),
      change 2017 3 12 7 0 (-240),
      change 2017 11 5 6 0 (-300),
      change 2018 3 11 7 0 (-240),
      change 2018 11 4 6 0 (-300),
      change 2019 3 10 7 0 (-240),
      change 2019 11 3 6 0 (-300),
      change 2020 3 8 7 0 (-240),
      change 2020 11 1 6 0 (-300),
      change 2021 3 14 7 0 (-240),
      change 2021 11 7 6 0 (-300)] }

def paris : Zone :=
  { name := "Europe/Paris",standing := 60 * 60
    changes := [
      change 1999 3 28 1 0 120,
      change 1999 10 31 1 0 60,
      change 2000 3 26 1 0 120,
      change 2000 10 29 1 0 60,
      change 2001 3 25 1 0 120,
      change 2001 10 28 1 0 60,
      change 2002 3 31 1 0 120,
      change 2002 10 27 1 0 60,
      change 2003 3 30 1 0 120,
      change 2003 10 26 1 0 60,
      change 2004 3 28 1 0 120,
      change 2004 10 31 1 0 60,
      change 2005 3 27 1 0 120,
      change 2005 10 30 1 0 60,
      change 2006 3 26 1 0 120,
      change 2006 10 29 1 0 60,
      change 2007 3 25 1 0 120,
      change 2007 10 28 1 0 60,
      change 2008 3 30 1 0 120,
      change 2008 10 26 1 0 60,
      change 2009 3 29 1 0 120,
      change 2009 10 25 1 0 60,
      change 2010 3 28 1 0 120,
      change 2010 10 31 1 0 60,
      change 2011 3 27 1 0 120,
      change 2011 10 30 1 0 60,
      change 2012 3 25 1 0 120,
      change 2012 10 28 1 0 60,
      change 2013 3 31 1 0 120,
      change 2013 10 27 1 0 60,
      change 2014 3 30 1 0 120,
      change 2014 10 26 1 0 60,
      change 2015 3 29 1 0 120,
      change 2015 10 25 1 0 60,
      change 2016 3 27 1 0 120,
      change 2016 10 30 1 0 60,
      change 2017 3 26 1 0 120,
      change 2017 10 29 1 0 60,
      change 2018 3 25 1 0 120,
      change 2018 10 28 1 0 60,
      change 2019 3 31 1 0 120,
      change 2019 10 27 1 0 60,
      change 2020 3 29 1 0 120,
      change 2020 10 25 1 0 60,
      change 2021 3 28 1 0 120,
      change 2021 10 31 1 0 60] }

def london : Zone :=
  { name := "Europe/London",standing := 0 * 60
    changes := [
      change 1999 3 28 1 0 60,
      change 1999 10 31 1 0 0,
      change 2000 3 26 1 0 60,
      change 2000 10 29 1 0 0,
      change 2001 3 25 1 0 60,
      change 2001 10 28 1 0 0,
      change 2002 3 31 1 0 60,
      change 2002 10 27 1 0 0,
      change 2003 3 30 1 0 60,
      change 2003 10 26 1 0 0,
      change 2004 3 28 1 0 60,
      change 2004 10 31 1 0 0,
      change 2005 3 27 1 0 60,
      change 2005 10 30 1 0 0,
      change 2006 3 26 1 0 60,
      change 2006 10 29 1 0 0,
      change 2007 3 25 1 0 60,
      change 2007 10 28 1 0 0,
      change 2008 3 30 1 0 60,
      change 2008 10 26 1 0 0,
      change 2009 3 29 1 0 60,
      change 2009 10 25 1 0 0,
      change 2010 3 28 1 0 60,
      change 2010 10 31 1 0 0,
      change 2011 3 27 1 0 60,
      change 2011 10 30 1 0 0,
      change 2012 3 25 1 0 60,
      change 2012 10 28 1 0 0,
      change 2013 3 31 1 0 60,
      change 2013 10 27 1 0 0,
      change 2014 3 30 1 0 60,
      change 2014 10 26 1 0 0,
      change 2015 3 29 1 0 60,
      change 2015 10 25 1 0 0,
      change 2016 3 27 1 0 60,
      change 2016 10 30 1 0 0,
      change 2017 3 26 1 0 60,
      change 2017 10 29 1 0 0,
      change 2018 3 25 1 0 60,
      change 2018 10 28 1 0 0,
      change 2019 3 31 1 0 60,
      change 2019 10 27 1 0 0,
      change 2020 3 29 1 0 60,
      change 2020 10 25 1 0 0,
      change 2021 3 28 1 0 60,
      change 2021 10 31 1 0 0] }

def kathmandu : Zone :=
  { name := "Asia/Kathmandu",standing := 345 * 60,changes := [] }

def kolkata : Zone :=
  { name := "Asia/Kolkata",standing := 330 * 60,changes := [] }

def tokyo : Zone :=
  { name := "Asia/Tokyo",standing := 540 * 60,changes := [] }

def saoPaulo : Zone :=
  { name := "America/Sao_Paulo",standing := -120 * 60
    changes := [
      change 1999 2 21 2 0 (-180),
      change 1999 10 3 3 0 (-120),
      change 2000 2 27 2 0 (-180),
      change 2000 10 8 3 0 (-120),
      change 2001 2 18 2 0 (-180),
      change 2001 10 14 3 0 (-120),
      change 2002 2 17 2 0 (-180),
      change 2002 11 3 3 0 (-120),
      change 2003 2 16 2 0 (-180),
      change 2003 10 19 3 0 (-120),
      change 2004 2 15 2 0 (-180),
      change 2004 11 2 3 0 (-120),
      change 2005 2 20 2 0 (-180),
      change 2005 10 16 3 0 (-120),
      change 2006 2 19 2 0 (-180),
      change 2006 11 5 3 0 (-120),
      change 2007 2 25 2 0 (-180),
      change 2007 10 14 3 0 (-120),
      change 2008 2 17 2 0 (-180),
      change 2008 10 19 3 0 (-120),
      change 2009 2 15 2 0 (-180),
      change 2009 10 18 3 0 (-120),
      change 2010 2 21 2 0 (-180),
      change 2010 10 17 3 0 (-120),
      change 2011 2 20 2 0 (-180),
      change 2011 10 16 3 0 (-120),
      change 2012 2 26 2 0 (-180),
      change 2012 10 21 3 0 (-120),
      change 2013 2 17 2 0 (-180),
      change 2013 10 20 3 0 (-120),
      change 2014 2 16 2 0 (-180),
      change 2014 10 19 3 0 (-120),
      change 2015 2 22 2 0 (-180),
      change 2015 10 18 3 0 (-120),
      change 2016 2 21 2 0 (-180),
      change 2016 10 16 3 0 (-120),
      change 2017 2 19 2 0 (-180),
      change 2017 10 15 3 0 (-120),
      change 2018 2 18 2 0 (-180),
      change 2018 11 4 3 0 (-120),
      change 2019 2 17 2 0 (-180)] }

def lordHowe : Zone :=
  { name := "Australia/Lord_Howe",standing := 660 * 60
    changes := [
      change 1999 3 27 15 0 630,
      change 1999 10 30 15 30 660,
      change 2000 3 25 15 0 630,
      change 2000 8 26 15 30 660,
      change 2001 3 24 15 0 630,
      change 2001 10 27 15 30 660,
      change 2002 3 30 15 0 630,
      change 2002 10 26 15 30 660,
      change 2003 3 29 15 0 630,
      change 2003 10 25 15 30 660,
      change 2004 3 27 15 0 630,
      change 2004 10 30 15 30 660,
      change 2005 3 26 15 0 630,
      change 2005 10 29 15 30 660,
      change 2006 4 1 15 0 630,
      change 2006 10 28 15 30 660,
      change 2007 3 24 15 0 630,
      change 2007 10 27 15 30 660,
      change 2008 4 5 15 0 630,
      change 2008 10 4 15 30 660,
      change 2009 4 4 15 0 630,
      change 2009 10 3 15 30 660,
      change 2010 4 3 15 0 630,
      change 2010 10 2 15 30 660,
      change 2011 4 2 15 0 630,
      change 2011 10 1 15 30 660,
      change 2012 3 31 15 0 630,
      change 2012 10 6 15 30 660,
      change 2013 4 6 15 0 630,
      change 2013 10 5 15 30 660,
      change 2014 4 5 15 0 630,
      change 2014 10 4 15 30 660,
      change 2015 4 4 15 0 630,
      change 2015 10 3 15 30 660,
      change 2016 4 2 15 0 630,
      change 2016 10 1 15 30 660,
      change 2017 4 1 15 0 630,
      change 2017 9 30 15 30 660,
      change 2018 3 31 15 0 630,
      change 2018 10 6 15 30 660,
      change 2019 4 6 15 0 630,
      change 2019 10 5 15 30 660,
      change 2020 4 4 15 0 630,
      change 2020 10 3 15 30 660,
      change 2021 4 3 15 0 630,
      change 2021 10 2 15 30 660] }

def apia : Zone :=
  { name := "Pacific/Apia",standing := -660 * 60
    changes := [
      change 2010 9 26 11 0 (-600),
      change 2011 4 2 14 0 (-660),
      change 2011 9 24 14 0 (-600),
      change 2011 12 30 10 0 840,
      change 2012 3 31 14 0 780,
      change 2012 9 29 14 0 840,
      change 2013 4 6 14 0 780,
      change 2013 9 28 14 0 840,
      change 2014 4 5 14 0 780,
      change 2014 9 27 14 0 840,
      change 2015 4 4 14 0 780,
      change 2015 9 26 14 0 840,
      change 2016 4 2 14 0 780,
      change 2016 9 24 14 0 840,
      change 2017 4 1 14 0 780,
      change 2017 9 23 14 0 840,
      change 2018 3 31 14 0 780,
      change 2018 9 29 14 0 840,
      change 2019 4 6 14 0 780,
      change 2019 9 28 14 0 840,
      change 2020 4 4 14 0 780,
      change 2020 9 26 14 0 840,
      change 2021 4 3 14 0 780] }

def tabulated : List Zone :=
  [greenwich "Etc/UTC",greenwich "UTC",greenwich "GMT",greenwich "Etc/GMT",
    greenwich "Etc/Universal",losAngeles,newYork,paris,london,
    kathmandu,kolkata,tokyo,saoPaulo,lordHowe,apia]

theorem tabulated_named {name : String} {zone : Zone}
    (found : tabulated.find? (fun zone => zone.name == name) = some zone) :
    zone ∈ tabulated ∧ zone.name = name := by
  have same := List.find?_some found
  exact ⟨List.mem_of_find?_eq_some found,beq_iff_eq.mp same⟩

def table : Database where
  find? name := tabulated.find? fun zone => zone.name == name
  named found := (tabulated_named found).2
  plain found := by
    have plain : ∀ zone ∈ tabulated, zone.name.toList.all
        (fun c => c.isAlphanum || ['/','_','+','-'].contains c) = true := by decide
    obtain ⟨listed,same⟩ := tabulated_named found
    exact same ▸ plain _ listed

end OlapQuery.Time.Zone
